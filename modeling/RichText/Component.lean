import RichText.Node
import RichText.Value.Spelling

/-!
Entries and assets that documents refer to. An entry is a component of some kind; its content type
tells which, through a table of tags that may be extended by aliases.
-/

namespace RichText

namespace Component

inductive Kind
  | tableOfContents
  | dataTable
  | chart
  | cards
  | link
  | linkCollection
  | navigation
  | form
  | modalForm
  | richText
  | image
  | unknown
  deriving DecidableEq, Repr

namespace Kind

def all : List Kind :=
  [.tableOfContents, .dataTable, .chart, .cards, .link, .linkCollection, .navigation, .form,
    .modalForm, .richText, .image, .unknown]

def name : Kind → Text
  | .tableOfContents => "table-of-contents"
  | .dataTable => "data-table"
  | .chart => "chart"
  | .cards => "cards"
  | .link => "link"
  | .linkCollection => "link-collection"
  | .navigation => "navigation"
  | .form => "form"
  | .modalForm => "modal-form"
  | .richText => "rich-text"
  | .image => "image"
  | .unknown => "unknown"

def ofName? (name : Text) : Option Kind := all.find? fun kind => kind.name = name

def tag? : Kind → Option Text
  | .tableOfContents => some "tableOfContents"
  | .dataTable => some "dataVisualizationTables"
  | .chart => some "dataVisualizationCharts"
  | .cards => some "dataVisualizationCards"
  | .link => some "link"
  | .linkCollection => some "linkReference"
  | .navigation => some "navigationBlock"
  | .form => some "form"
  | .modalForm => some "modalForm"
  | .richText => some "richText"
  | .image => some "image"
  | .unknown => none

/-- The kind of a content type. An alias comes before the tags. -/
def ofTag (aliases : List (Text × Kind)) (tag : Text) : Kind :=
  match aliases.lookup tag with
  | some kind => kind
  | none => (all.find? fun kind => kind.tag? = some tag).getD .unknown

end Kind

end Component

abbrev Fields := List (Text × Value)

structure Entry where
  id : Text
  contentType : Text
  fields : Fields := []
  /-- A document that is kept as the `body` field. -/
  body : Option Node := none

namespace Entry

/-- The value of a field, null where it is missing. -/
def field (entry : Entry) (name : Text) : Value := (entry.fields.lookup name).getD .null

/-- The text of a value, or a default for null and for empty text. -/
def textOr (default : Text) : Value → Text
  | .null => default
  | .text [] => default
  | value => value.toText

/-- A field as text, or a default where it is missing or empty. -/
def fieldText (entry : Entry) (name : Text) (default : Text := []) : Text :=
  textOr default (entry.field name)

def kind (entry : Entry) (aliases : List (Text × Component.Kind)) : Component.Kind :=
  .ofTag aliases entry.contentType

end Entry

/-- The id in a reference: a bare id, or a mapping with an `id`, directly or under `sys`. -/
def referenceId (value : Value) : Option Text :=
  match value.opened with
  | .text id => if id.isEmpty then none else some id
  | .map entries =>
      match (Value.fieldOr "sys" value entries).opened with
      | .map system =>
          let id := Value.field "id" system
          if id.isTruthy then some id.toText else none
      | _ => none
  | _ => none

structure Asset where
  id : Text
  url : Text
  title : Text := []
  fileName : Text := []
  contentType : Text := []
  deriving DecidableEq, Repr

namespace Asset

def isImage (asset : Asset) : Bool := Text.startsWith asset.contentType "image/"

end Asset

end RichText
