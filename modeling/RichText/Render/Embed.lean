import RichText.Markdown.Reader
import RichText.Marker
import RichText.Markup
import RichText.Render.Setting
import RichText.Text.Slug
import RichText.Url

/-!
Embedded entries and assets. Data components become markers, everything else is rendered directly; an
entry that cannot be rendered becomes a placeholder that names it, and a warning.
-/

namespace RichText

/-- An embedded entry: its id, where it stands, and the rich text entries around it. -/
structure Embed where
  id : Option Text
  place : Place := .alone
  inline : Bool := false
  trail : Trail := []

namespace Embed

/-- Renders the blocks of a nested document inside the rich text entries of a trail. -/
abbrev Nested := List Node → Trail → Rendered

def unresolved (notice : Notice) (text : Text) : Rendered := do
  Traced.note notice
  return Markup.placeholder text

/-! ## Markers -/

def emit (marker : Marker) : Rendered := do
  Traced.note (.markerEmitted marker)
  return marker.toText

def tableMarker (entry : Entry) (place : Place) : Noted Marker := do
  let key ← HeadingScope.hint place
  return { kind := .table, id := entry.id, key }

def contentsMarker (entry : Entry) : Marker := { kind := .contents, id := entry.id }

def chartMarker (entry : Entry) : Marker where
  kind := .chart
  id := entry.id
  attributes := [
    ("type", entry.fieldText "visualizationType" "Bar Chart"),
    ("title", entry.fieldText "title")]

def cardsMarker (entry : Entry) : Marker where
  kind := .cards
  id := entry.id
  attributes := [
    ("type", entry.fieldText "type" "Summary"),
    ("title", entry.fieldText "title")]

def formMarker (entry : Entry) : Marker where
  kind := .form
  id := entry.id
  attributes := [
    ("title", entry.fieldText "title" "Contact Form"),
    ("submit", entry.fieldText "submitText" "Submit")]

/-! ## Links -/

/-- The first text unless it is empty, else the second. -/
def firstText (first second : Text) : Text := if first.isEmpty then second else first

def linkText (entry : Entry) (default : Text) : Text :=
  firstText (entry.fieldText "linkText") (entry.fieldText "title" default)

def backToTop (setting : Setting) (text : Text) : Text :=
  Markup.link ('#' :: setting.config.links.backToTopAnchor) ("↑ " ++ Text.escape text)

def buttonClass : Text := "wp-button"

def blockLink (setting : Setting) (entry : Entry) : Rendered :=
  let kind := entry.fieldText "type"
  let text := linkText entry "Learn More"
  let url := entry.fieldText "url"
  let button (target : Text) : Text :=
    Markup.paragraph (Markup.link target (Text.escape text) false buttonClass)
  if kind = "backtotop" then pure (Markup.paragraph (backToTop setting text) "back-to-top")
  else if kind = "internal" && !text.isEmpty then pure (button ('/' :: Text.slug text))
  else if !url.isEmpty then pure (button (Url.normalized url))
  else
    unresolved (.linkWithoutTarget entry.id)
      ("Link component: " ++ entry.id ++ " (type: " ++ kind ++ ")")

def inlineLink (setting : Setting) (entry : Entry) : Text :=
  let kind := entry.fieldText "type"
  let text := linkText entry "Link"
  let url := entry.fieldText "url"
  if kind = "backtotop" then backToTop setting text
  else if !url.isEmpty then Markup.link (Url.normalized url) (Text.escape text)
  else if kind = "internal" then Markup.link ('/' :: Text.slug text) (Text.escape text)
  else Text.escape text

/-- The items of a link collection; references to missing entries leave a notice. -/
def linkItems (setting : Setting) (collection : Text) : List Value → Noted (List Text)
  | [] => pure []
  | reference :: references =>
      match (referenceId reference).bind setting.store.entry? with
      | none => do
          Noted.note (.linkEntryMissing collection reference)
          linkItems setting collection references
      | some linked => do
          let url := Url.normalized (linked.fieldText "url" "#")
          let link := Markup.link url (Text.escape (linkText linked "Link"))
          let others ← linkItems setting collection references
          return Markup.listItem link :: others

def listOf (value : Value) : List Value :=
  match value.opened with
  | .list items => items
  | _ => []

def linkCollection (setting : Setting) (entry : Entry) : Noted Text := do
  let items ← linkItems setting entry.id (listOf (entry.field "links"))
  if items.isEmpty then
    return Markup.placeholder ("Link reference: " ++ entry.id ++ " (empty)")
  else
    let title := entry.fieldText "title"
    let list := Markup.listBlock items false "link-reference-list"
    return if title.isEmpty then list
      else Text.join "\n" [Markup.heading 3 (Text.escape title), list]

def navigation (entry : Entry) : Text :=
  Markup.placeholder ("Navigation Block: " ++ entry.fieldText "name")

def callToAction (entry : Entry) : Text :=
  let color := entry.fieldText "buttonColor" "green"
  let title := entry.fieldText "title" "Get Started"
  Markup.link "#contact" (Text.escape title) false ("wp-button cta-button cta-" ++ color)

def modalForm (entry : Entry) : Text :=
  Markup.division (callToAction entry) "cta-button-container"

/-! ## Content -/

/-- The document in the body of an entry, if there is one. -/
def bodyOf (entry : Entry) : Option (Except Node.Fault Node) :=
  match entry.body with
  | some node => some (.ok node)
  | none =>
      let body := entry.field "body"
      if Node.isDocumentValue body then some (Node.ofValue body) else none

def richTextClass : Text := "rich-text-block"

/-- A rich text entry without a body: its text, read as markdown if the settings say so. -/
def richTextOfText (setting : Setting) (nested : Nested) (entry : Entry) (trail : Trail) :
    Rendered :=
  let text := firstText (entry.fieldText "text") (entry.fieldText "content")
  if text.isEmpty then
    pure (Markup.placeholder ("Rich text block: " ++ entry.id ++ " (empty)"))
  else
    match setting.config.richText.textFormat with
    | .markdown => do
        let nodes ← (Markdown.blockNodes (Markdown.read text) : Noted (List Node))
        let content ← nested nodes trail
        return Markup.division content richTextClass
    | .plain => pure (Markup.division (Text.escape text) richTextClass)

/-- A rich text entry. One that is being expanded already is not expanded again. -/
def richText (setting : Setting) (nested : Nested) (entry : Entry) (trail : Trail) : Rendered :=
  if trail.contains entry.id then
    unresolved (.selfEmbedding entry.id)
      ("Rich text block: " ++ entry.id ++ " (recursive)")
  else
    let trail := trail ++ [entry.id]
    match bodyOf entry with
    | none => richTextOfText setting nested entry trail
    | some (.ok document) => do
        let content ← nested document.children trail
        return Markup.division content richTextClass
    | some (.error fault) =>
        if fault.isStructural then
          unresolved (.malformedBody entry.id fault.message)
            ("Rich text block: " ++ entry.id ++ " (malformed)")
        else Traced.fail (.node fault)

def usableAsset? (setting : Setting) (id : Option Text) : Option Asset :=
  (id.bind setting.store.asset?).filter fun asset => !asset.url.isEmpty

def image (setting : Setting) (entry : Entry) : Rendered :=
  let title := entry.fieldText "title"
  match usableAsset? setting (referenceId (entry.field "image")) with
  | none => unresolved (.imageWithoutAsset entry.id) ("Image component: " ++ entry.id)
  | some asset =>
      pure (Markup.figure (Url.normalized asset.url) (firstText title asset.title) title)

/-! ## Entries -/

/-- The rendering of an entry as a block, by its kind; none for an unknown kind. -/
def block? (setting : Setting) (nested : Nested) (embed : Embed) (entry : Entry) :
    Component.Kind → Option Rendered
  | .tableOfContents => some (emit (contentsMarker entry))
  | .dataTable => some do
      let marker ← (tableMarker entry embed.place : Noted Marker)
      emit marker
  | .chart => some (emit (chartMarker entry))
  | .cards => some (emit (cardsMarker entry))
  | .link => some (blockLink setting entry)
  | .linkCollection => some (Traced.ofNoted (linkCollection setting entry))
  | .navigation => some (pure (navigation entry))
  | .form => some (emit (formMarker entry))
  | .modalForm => some (pure (modalForm entry))
  | .richText => some (richText setting nested entry embed.trail)
  | .image => some (image setting entry)
  | .unknown => none

def block (setting : Setting) (nested : Nested) (embed : Embed) : Rendered :=
  match embed.id.filter fun id => !id.isEmpty with
  | none => unresolved .embedWithoutTarget "Embedded entry: missing ID"
  | some id =>
      match setting.store.entry? id with
      | none => unresolved (.embedNotFound id) ("Embedded entry: " ++ id ++ " (not resolved)")
      | some entry =>
          let kind := setting.kindOf entry
          match block? setting nested embed entry kind with
          | none =>
              unresolved (.embedWithoutRenderer entry.id entry.contentType)
                ("Embedded entry: " ++ entry.id ++ " (type: " ++ entry.contentType ++ ")")
          | some rendered => do
              Traced.note (.renderingEntry entry.id kind.name)
              rendered

def inlineEntry (setting : Setting) (embed : Embed) : Rendered :=
  match embed.id.filter fun id => !id.isEmpty with
  | none => unresolved .inlineWithoutTarget "Inline entry: missing ID"
  | some id =>
      match setting.store.entry? id with
      | none => unresolved (.inlineNotFound id) ("Inline entry: " ++ id ++ " (not resolved)")
      | some entry =>
          match setting.kindOf entry with
          | .link => pure (inlineLink setting entry)
          | .modalForm => pure (callToAction entry)
          | _ =>
              unresolved (.inlineNotRenderable entry.id entry.contentType)
                ("Inline entry: " ++ entry.id ++ " (type: " ++ entry.contentType ++ ")")

def render (setting : Setting) (nested : Nested) (embed : Embed) : Rendered :=
  if embed.inline then inlineEntry setting embed else block setting nested embed

/-! ## Assets -/

def pdfType : Text := "application/pdf"

/-- An embedded asset: a figure for an image, a link for anything else. -/
def renderAsset (setting : Setting) (id : Option Text) : Rendered :=
  match usableAsset? setting id with
  | none =>
      unresolved (.assetNotFound id)
        ("Embedded asset: " ++ Notice.shownId id ++ " (not resolved)")
  | some asset =>
      let url := Url.normalized asset.url
      let name := firstText asset.title asset.fileName
      if asset.isImage then pure (Markup.figure url name asset.title)
      else if asset.contentType = pdfType then
        let label := "📄 " ++ Text.escape (firstText name "Download PDF")
        pure (Markup.paragraph (Markup.link url label true "wp-block-file"))
      else
        let label := "📎 " ++ Text.escape (firstText name "Download file")
        pure (Markup.paragraph (Markup.link url label true))

end Embed

end RichText
