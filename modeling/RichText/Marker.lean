import RichText.Text.Escape

/-!
Markers stand in a rendered fragment for views that the display stage fills in later. A marker is a
bracketed tag with attributes between double quotes, the id first, then the key hint:

    [richdoc_table id="3JnIHQENe4ZtihjpWwphGI" key="area-agency-on-aging"]
-/

namespace RichText

namespace Marker

/-- The views that a marker can stand for. -/
inductive Kind
  | table
  | contents
  | chart
  | cards
  | form
  deriving DecidableEq, Repr

namespace Kind

def all : List Kind := [.table, .contents, .chart, .cards, .form]

/-- The part of a tag that tells the kind. -/
def label : Kind → Text
  | .table => "table"
  | .contents => "toc"
  | .chart => "chart"
  | .cards => "cards"
  | .form => "form"

def tag (kind : Kind) : Text := "richdoc_" ++ kind.label

def ofTag? (tag : Text) : Option Kind := all.find? fun kind => kind.tag = tag

end Kind

end Marker

structure Marker where
  kind : Marker.Kind
  /-- The entity that the view shows. -/
  id : Text
  /-- Which rows of a table to show. -/
  key : Option Text := none
  /-- Further attributes by name, in order. -/
  attributes : List (Text × Text) := []
  deriving DecidableEq, Repr

namespace Marker

/-- The value under a name, empty where it is missing. -/
def valueOf (name : Text) (attributes : List (Text × Text)) : Text :=
  (attributes.lookup name).getD []

/-- The value of a further attribute, empty where it is missing. -/
def attributeOf (marker : Marker) (name : Text) : Text := valueOf name marker.attributes

/-- The key hint, where it is present and not empty. -/
def keyHint? (marker : Marker) : Option Text := marker.key.filter fun key => !key.isEmpty

def attributeText (name value : Text) : Text :=
  name ++ "=\"" ++ Text.escapeAttribute value ++ "\""

/-- The written attributes: id, key hint, then all others whose names are not taken by these. -/
def written (marker : Marker) : List (Text × Text) :=
  [(("id" : Text), marker.id)] ++ (marker.keyHint?.toList.map fun key => (("key" : Text), key)) ++
    marker.attributes.filter fun (name, _) => name ≠ "id" && name ≠ "key"

def toText (marker : Marker) : Text :=
  "[" ++ Text.join " " (marker.kind.tag :: marker.written.map fun (name, value) =>
    attributeText name value) ++ "]"

end Marker

end RichText
