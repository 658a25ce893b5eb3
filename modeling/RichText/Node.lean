import RichText.Text.Basic

/-!
Rich-text documents are trees of nodes. A node has a tag, which may be one that this library does not
know; such a node keeps its tag and its children.
-/

namespace RichText

/-- A heading level from 1 to 6. -/
structure HeadingLevel where
  number : Nat
  isLevel : 1 ≤ number ∧ number ≤ 6
  deriving DecidableEq

namespace HeadingLevel

def all : List HeadingLevel :=
  [⟨1, by decide⟩, ⟨2, by decide⟩, ⟨3, by decide⟩, ⟨4, by decide⟩, ⟨5, by decide⟩, ⟨6, by decide⟩]

def ofInt? (number : Int) : Option HeadingLevel :=
  if isLevel : 1 ≤ number.toNat ∧ number.toNat ≤ 6 then some ⟨number.toNat, isLevel⟩ else none

end HeadingLevel

namespace Node

/-- The kinds of nodes that have a rendering of their own. -/
inductive Kind
  | document
  | paragraph
  | heading (level : HeadingLevel)
  | unorderedList
  | orderedList
  | listItem
  | blockquote
  | rule
  | hyperlink
  | entryHyperlink
  | assetHyperlink
  | embeddedEntry
  | embeddedEntryInline
  | embeddedAsset
  | text
  | table
  | tableRow
  | tableCell
  | tableHeaderCell
  deriving DecidableEq

namespace Kind

def all : List Kind :=
  [.document, .paragraph] ++ HeadingLevel.all.map .heading ++
    [.unorderedList, .orderedList, .listItem, .blockquote, .rule, .hyperlink, .entryHyperlink,
      .assetHyperlink, .embeddedEntry, .embeddedEntryInline, .embeddedAsset, .text, .table,
      .tableRow, .tableCell, .tableHeaderCell]

def name : Kind → Text
  | .document => "document"
  | .paragraph => "paragraph"
  | .heading level => "heading-" ++ Text.ofNat level.number
  | .unorderedList => "unordered-list"
  | .orderedList => "ordered-list"
  | .listItem => "list-item"
  | .blockquote => "blockquote"
  | .rule => "hr"
  | .hyperlink => "hyperlink"
  | .entryHyperlink => "entry-hyperlink"
  | .assetHyperlink => "asset-hyperlink"
  | .embeddedEntry => "embedded-entry-block"
  | .embeddedEntryInline => "embedded-entry-inline"
  | .embeddedAsset => "embedded-asset-block"
  | .text => "text"
  | .table => "table"
  | .tableRow => "table-row"
  | .tableCell => "table-cell"
  | .tableHeaderCell => "table-header-cell"

def ofName? (name : Text) : Option Kind := all.find? fun kind => kind.name = name

end Kind

/-- A tag is the name of a kind, or a name that belongs to none. -/
inductive Tag
  | known (kind : Kind)
  | other (name : Text) (unknown : Kind.ofName? name = none)
  deriving DecidableEq

namespace Tag

def name : Tag → Text
  | .known kind => kind.name
  | .other name _ => name

def ofName (name : Text) : Tag :=
  match found : Kind.ofName? name with
  | some kind => .known kind
  | none => .other name found

def kind? : Tag → Option Kind
  | .known kind => some kind
  | .other _ _ => none

def headingLevel? : Tag → Option HeadingLevel
  | .known (.heading level) => some level
  | _ => none

end Tag

inductive TargetKind
  | asset
  | entry
  deriving DecidableEq, Repr

/-- What an embedding or a link points at. -/
structure Target where
  id : Text
  kind : TargetKind
  deriving DecidableEq, Repr

/-- What a node carries besides its text and its children. -/
structure Payload where
  uri : Option Text := none
  target : Option Target := none
  colspan : Option Int := none
  rowspan : Option Int := none
  deriving DecidableEq, Repr

end Node

/-- A node of a rich-text tree. Marks are kept by name, known or not. -/
structure Node where
  tag : Node.Tag
  children : List Node := []
  value : Text := []
  marks : List Text := []
  payload : Node.Payload := {}

namespace Node

def kind? (node : Node) : Option Kind := node.tag.kind?

def headingLevel? (node : Node) : Option HeadingLevel := node.tag.headingLevel?

def isHeading (node : Node) : Bool := node.headingLevel?.isSome

def targetId (node : Node) : Option Text := node.payload.target.map (·.id)

mutual

/-- The text under a node. A node with a value of its own stands for that alone. -/
def plainText : Node → Text
  | ⟨_, children, value, _, _⟩ => if value.isEmpty then plainTextOf children else value

def plainTextOf : List Node → Text
  | [] => []
  | node :: nodes => plainText node ++ plainTextOf nodes

end

end Node

end RichText
