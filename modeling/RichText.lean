import RichText.Dataset.Cells
import RichText.Main
import RichText.Markdown.Reader
import RichText.Markdown.TokenReader
import RichText.Proofs.Marker.RoundTrip
import RichText.Proofs.Page.Returns
import RichText.Proofs.Render.Forgery
import RichText.Proofs.Render.Markers
import RichText.Proofs.Render.Returns
import RichText.Proofs.Render.Sections
import RichText.Proofs.Render.Headings
import RichText.Proofs.Render.Acyclic
import RichText.Proofs.Text.Case
import RichText.Proofs.Dataset.Selection
import RichText.Proofs.Dataset.Columns
import RichText.Proofs.Dataset.Keys
import RichText.Proofs.HeadingScope
import RichText.Proofs.Markup.WellFormed
import RichText.Proofs.Page.Opening
import RichText.Proofs.Render.WellFormed
import RichText.Proofs.Render.Outline
import RichText.Proofs.Page.Cards
import RichText.Proofs.Page.CardColumns
import RichText.Proofs.Markup.Nested
import RichText.Proofs.Page.View
import RichText.Proofs.Checked
import RichText.Proofs.Source.Snapshot
import RichText.Proofs.Render.Warning
import RichText.Proofs.KeyMatch
import RichText.Proofs.Marker.Cut
import RichText.Proofs.Marker.Canonical
import RichText.Proofs.Command.Build
import RichText.Proofs.Dataset.Normal
import RichText.Proofs.Node.Spelled
import RichText.Proofs.Markdown.Leaves
import RichText.Proofs.Render.Prose
import RichText.Proofs.Markdown.Described
import RichText.Proofs.Csv
import RichText.Proofs.Markup.Delimited
import RichText.Proofs.Render.Leaf
import RichText.Proofs.Render.Invisible
import RichText.Proofs.Url.Host
import RichText.Proofs.Page.Amount
import RichText.Proofs.Render.Address
import RichText.Proofs.Source.Asset
import RichText.Proofs.KeyHint
