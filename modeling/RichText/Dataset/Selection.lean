import RichText.Dataset
import RichText.Marker

/-!
The visible part of a dataset: the rows that a key hint asks for, and the columns to show.
-/

namespace RichText.Dataset

/-- The values of a key hint, which may name several keys between commas. -/
def hintValues (hint : Text) : List Text :=
  ((Text.pieces (· = ',') hint).filter fun value => !(Text.trim value).isEmpty).map KeyMatch.normal

/-- Adds the columns with the given names, in the order of the names, each once. -/
def namedColumns (header : List Text) (keyColumn : Int) (names : List Text) : List Nat :=
  names.foldl
    (fun columns name =>
      match columnNamed? header name with
      | some column =>
          if (column : Int) ≠ keyColumn && !columns.contains column then columns ++ [column]
          else columns
      | none => columns)
    []

def otherColumns (header : List Text) (keyColumn : Int) : List Nat :=
  (List.range header.length).filter fun column => (column : Int) ≠ keyColumn

/-- The columns to show: the named ones, or all of them when no name fits; never the key column. -/
def visibleColumns (header : List Text) (keyColumn : Int) (names : List Text) : List Nat :=
  let named := namedColumns header keyColumn names
  if named.isEmpty then otherColumns header keyColumn else named

/-- The keys that the values of a hint mean, each once. -/
def resolveValues (knownKeys : List Text) : List Text → Noted (List Text)
  | [] => pure []
  | value :: values => do
      let key ← KeyMatch.resolve value knownKeys
      let keys ← resolveValues knownKeys values
      return key.toList ++ keys

def resolveKeys (dataset : Dataset) (hint : Text) : Noted (List Text) := do
  let keys ← resolveValues dataset.knownKeys (hintValues hint)
  return Text.distinct keys

/-- The rows whose key is one of the given ones. -/
def rowsWithKeys (dataset : Dataset) (keys : List Text) : List (List Text) :=
  dataset.rows.filter fun row =>
    keys.contains (KeyMatch.normal (cellAt row dataset.keyColumn.toNat))

/-- The visible part of a dataset, with the keys that selected its rows. -/
structure Selection where
  header : List Text
  rows : List (List Text)
  keys : List Text
  deriving DecidableEq, Repr

/-- The keys that select rows, and the rows. Without a hint, a key column or a match all rows are
kept. -/
def selectRows (dataset : Dataset) (hint : Option Text) : Noted (List Text × List (List Text)) :=
  match hint with
  | none => pure ([], dataset.rows)
  | some hint =>
      if dataset.hasKeyColumn then do
        let keys ← dataset.resolveKeys hint
        if keys.isEmpty then
          Noted.note (.noKeyMatched dataset.id hint)
          return ([], dataset.rows)
        else
          let rows := dataset.rowsWithKeys keys
          Noted.note (.rowsKept dataset.id hint rows.length dataset.rows.length keys)
          return (keys, rows)
      else pure ([], dataset.rows)

/-- The rows that a hint asks for, cut down to the columns to show. -/
def select (dataset : Dataset) (hint : Option Text) (names : List Text) : Noted Selection := do
  let (keys, rows) ← dataset.selectRows hint
  let columns := visibleColumns dataset.header dataset.keyColumn names
  return {
    header := columns.map fun column => cellAt dataset.header column
    rows := rows.map fun row => columns.map fun column => cellAt row column
    keys }

end RichText.Dataset
