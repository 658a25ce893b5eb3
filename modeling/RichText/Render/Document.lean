import RichText.Render.Embed

/-!
Rendering of documents. Every node is rendered at its place among its siblings, so that a table can
see the heading before it. Blocks that render to nothing leave no gap.
-/

namespace RichText.Render

def blockSeparator : Text := "\n\n"

/-- Rendered blocks as one text; empty ones leave no trace. -/
def joinBlocks (blocks : List Text) : Text :=
  Text.join blockSeparator (blocks.filter fun block => !block.isEmpty)

/-- A leaf: its text escaped, and the marks around it, the first outermost. Marks that have no element
are passed over with a notice. -/
def markedText (content : Text) : List Text → Noted Text
  | [] => pure content
  | mark :: marks => do
      let inner ← markedText content marks
      match Markup.mark? mark inner with
      | some wrapped => return wrapped
      | none => do
          Noted.note (.unknownMark mark)
          return inner

def leaf (value : Text) (marks : List Text) : Noted Text := markedText (Text.escape value) marks

def hyperlink (setting : Setting) (payload : Node.Payload) (content : Text) : Noted Text := do
  let url := Embed.firstText (payload.uri.getD []) "#"
  let links := setting.config.links
  let newTab ← if links.externalNewTab then Url.isExternal url links.siteDomain else pure false
  return Markup.link url content newTab

/-- The address that the caller's hook gives an entry. -/
def hookResult (hook : Option EntryHook) (id : Text) (entry : Option Entry) : Option Text :=
  (hook.bind fun resolve => resolve id entry).filter fun text => !text.isEmpty

def entryHyperlink (setting : Setting) (target : Option Text) (content : Text) : Noted Text :=
  match target.filter fun id => !id.isEmpty with
  | none => pure content
  | some id =>
      let entry := setting.store.entry? id
      match hookResult setting.entryUrl id entry with
      | some url => pure (Markup.link url content)
      | none =>
          let slug := (entry.map fun entry => entry.fieldText "slug").getD []
          if slug.isEmpty then do
            Noted.note (.entryLinkWithoutUrl id)
            return content
          else pure (Markup.link ('/' :: slug) content)

def assetHyperlink (setting : Setting) (target : Option Text) (content : Text) : Noted Text :=
  match Embed.usableAsset? setting target with
  | none => do
      Noted.note (.assetLinkUnresolved target)
      return content
  | some asset => pure (Markup.link (Url.normalized asset.url) content true)

/-- An embedded entry, unless the caller's hook renders it. -/
def embeddedEntry (setting : Setting) (nested : Embed.Nested) (embed : Embed) : Rendered :=
  let custom :=
    match embed.id.filter fun id => !id.isEmpty with
    | some id =>
        if embed.inline then none
        else hookResult setting.entryMarkup id (setting.store.entry? id)
    | none => none
  match custom with
  | some markup => pure markup
  | none => embed.render setting nested

def paragraph (content : Text) : Text :=
  if (Text.trim content).isEmpty then [] else Markup.paragraph content

mutual

/-- Renders one node at its place. Where paragraphs are unwrapped, a paragraph is its content alone. -/
def node (setting : Setting) (nested : Embed.Nested) (trail : Trail) (place : Place)
    (unwrap : Bool) : Node → Rendered
  | ⟨tag, children, value, marks, payload⟩ =>
      match tag with
      | .known (.heading level) => do
          let content ← nodes setting nested trail [] false children
          let anchor := Text.slug (Node.plainText ⟨tag, children, value, marks, payload⟩)
          return Markup.heading level.number content.flatten anchor
      | .known .document => do
          let blocks ← nodes setting nested trail [] false children
          return joinBlocks blocks
      | .known .paragraph => do
          let content ← nodes setting nested trail [] false children
          return if unwrap then content.flatten else paragraph content.flatten
      | .known .unorderedList => do
          let items ← nodes setting nested trail [] false children
          return Markup.listBlock items false
      | .known .orderedList => do
          let items ← nodes setting nested trail [] false children
          return Markup.listBlock items true
      | .known .listItem => do
          let content ← nodes setting nested trail [] true children
          return Markup.listItem content.flatten
      | .known .blockquote => do
          let blocks ← nodes setting nested trail [] false children
          return Markup.blockquote (Text.join "\n" blocks)
      | .known .rule => pure Markup.rule
      | .known .hyperlink => do
          let content ← nodes setting nested trail [] false children
          (hyperlink setting payload content.flatten : Noted Text)
      | .known .entryHyperlink => do
          let content ← nodes setting nested trail [] false children
          (entryHyperlink setting (payload.target.map (·.id)) content.flatten : Noted Text)
      | .known .assetHyperlink => do
          let content ← nodes setting nested trail [] false children
          (assetHyperlink setting (payload.target.map (·.id)) content.flatten : Noted Text)
      | .known .embeddedEntry =>
          embeddedEntry setting nested
            { id := payload.target.map (·.id), place, inline := false, trail }
      | .known .embeddedEntryInline =>
          embeddedEntry setting nested
            { id := payload.target.map (·.id), place, inline := true, trail }
      | .known .embeddedAsset => Embed.renderAsset setting (payload.target.map (·.id))
      | .known .text => (leaf value marks : Noted Text)
      | .known .table => do
          let rows ← nodes setting nested trail [] false children
          return Markup.table rows
      | .known .tableRow => do
          let cells ← nodes setting nested trail [] false children
          return Markup.tableRow cells
      | .known .tableCell => do
          let content ← nodes setting nested trail [] true children
          return Markup.tableCell content.flatten false payload.colspan payload.rowspan
      | .known .tableHeaderCell => do
          let content ← nodes setting nested trail [] true children
          return Markup.tableCell content.flatten true payload.colspan payload.rowspan
      | .other name _ => do
          Traced.note (.unknownNode name)
          let content ← nodes setting nested trail [] false children
          return content.flatten

/-- Renders sibling nodes, given those before them from the nearest on. -/
def nodes (setting : Setting) (nested : Embed.Nested) (trail : Trail) (before : List Node)
    (unwrap : Bool) : List Node → Traced Fault (List Text)
  | [] => pure []
  | child :: rest => do
      let first ← node setting nested trail ⟨before, before.length⟩ unwrap child
      let others ← nodes setting nested trail (child :: before) unwrap rest
      return first :: others

end

/-- The blocks of a document, the level of nesting being limited. -/
def blocksWithin (setting : Setting) : Nat → List Node → Trail → Rendered
  | 0, _, _ => pure []
  | depth + 1, children, trail => do
      let blocks ← nodes setting (blocksWithin setting depth) trail [] false children
      return joinBlocks blocks

/-- A nesting that no document reaches: every level expands an entry that none around it does. -/
def depthLimit (setting : Setting) : Nat := setting.store.entries.length + 1

/-- Renders the blocks of a document inside the rich text entries of a trail. -/
def blocks (setting : Setting) : Embed.Nested := blocksWithin setting (depthLimit setting)

/-- Renders a document. Any other node renders to nothing. -/
def document (setting : Setting) (root : Node) : Rendered :=
  match root.kind? with
  | some .document => blocks setting root.children []
  | _ => do
      Traced.note (.notADocument root.tag.name)
      return []

/-- Renders one node on its own. -/
def single (setting : Setting) (trail : Trail) (place : Place) (given : Node) : Rendered :=
  node setting (blocks setting) trail place false given

/-- Renders an embedded entry on its own, without asking the caller's hook. -/
def embed (setting : Setting) (given : Embed) : Rendered := given.render setting (blocks setting)

end RichText.Render
