import RichText.KeyMatch

/-!
Tables behind data components: a header and rows of text cells. One column may hold keys, by which
rows are selected; it is never shown.
-/

namespace RichText

structure Dataset where
  id : Text
  title : Text := []
  header : List Text := []
  rows : List (List Text) := []
  /-- The column that holds the keys; out of range when there is none. -/
  keyColumn : Int := -1
  /-- The distinct keys in normal form, in the order of their first row. -/
  knownKeys : List Text := []
  deriving DecidableEq, Repr

namespace Dataset

def hasKeyColumn (dataset : Dataset) : Bool :=
  0 ≤ dataset.keyColumn && dataset.keyColumn < dataset.header.length

/-- The cell of a row, empty where the row is too short. -/
def cellAt (row : List Text) (column : Nat) : Text := row.getD column []

/-- A row cut or filled up with empty cells to a width. -/
def fitted (width : Nat) (row : List Text) : List Text :=
  row.take width ++ List.replicate (width - row.length) []

/-- The first column whose name is the wanted one, in normal form. -/
def columnNamed? (header : List Text) (name : Text) : Option Nat :=
  (header.map KeyMatch.normal).findIdx? (· = KeyMatch.normal name)

/-- The key column: the given one if it exists, otherwise the one with the given name. -/
def keyColumnOf (header : List Text) (name : Option Text) (column : Option Int) : Option Nat :=
  let given := column.filter fun given : Int => 0 ≤ given && given < header.length
  match given with
  | some column => some column.toNat
  | none => (name.filter fun name => !name.isEmpty).bind (columnNamed? header)

/-- The keys of a column, each once, in the order of their first row. -/
def keysIn (column : Nat) (rows : List (List Text)) : List Text :=
  KeyMatch.normalKeys (rows.map fun row => cellAt row column)

/-- A dataset with rows fitted to the header and its keys collected. -/
def ofRows (id title : Text) (header : List Text) (rows : List (List Text))
    (keyName : Option Text) (keyColumn : Option Int) : Dataset :=
  let rows := rows.map (fitted header.length)
  match keyColumnOf header keyName keyColumn with
  | some column =>
      { id, title, header, rows, keyColumn := column, knownKeys := keysIn column rows }
  | none => { id, title, header, rows }

/-- A dataset whose first row is the header. -/
def ofLines (id title : Text) (lines : List (List Text)) (keyName : Option Text) : Noted Dataset :=
  match lines with
  | [] => do
      Noted.note (.datasetWithoutRows id)
      return { id, title }
  | header :: rows => return ofRows id title header rows keyName none

end Dataset

end RichText
