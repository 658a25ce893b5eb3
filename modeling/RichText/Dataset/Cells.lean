import RichText.Dataset
import RichText.Value.Spelling

/-!
Tables whose cells are values of any kind: each cell is shown by its text. Rows may be lists, or texts
that give a cell for each character.
-/

namespace RichText.Dataset

/-- Why values do not make up a table. -/
inductive Fault
  /-- A row, or the table, is a single value. -/
  | notASeries
  /-- A column is looked up by its name, and a header cell is not a text. -/
  | nameNotText
  deriving DecidableEq, Repr

def rowCells : Value → Except Fault (List Text)
  | .list cells => .ok (cells.map Value.toText)
  | .text chars => .ok (chars.map fun char => [char])
  | _ => .error .notASeries

def isText : Value → Bool
  | .text _ => true
  | _ => false

/-- Whether the key column has to be found by its name. -/
def needsName (width : Nat) (keyName : Option Text) (keyColumn : Option Int) : Bool :=
  (keyName.any fun name => !name.isEmpty) &&
    !(keyColumn.any fun column : Int => 0 ≤ column && column < width)

def seriesOf (value : Value) : Except Fault (List Value) :=
  (value.series?.map .ok).getD (.error .notASeries)

def ofValues (id title : Text) (header rows : Value) (keyName : Option Text)
    (keyColumn : Option Int) : Except Fault Dataset := do
  let header ← seriesOf header
  let rows ← seriesOf rows
  let rows ← rows.mapM rowCells
  if needsName header.length keyName keyColumn && !header.all isText then throw .nameNotText
  return ofRows id title (header.map Value.toText) rows keyName keyColumn

/-- A dataset whose first row is the header. -/
def ofValueLines (id title : Text) (lines : List Value) (keyName : Option Text) :
    Traced Fault Dataset :=
  match lines with
  | [] => do
      Traced.note (.datasetWithoutRows id)
      return { id, title }
  | header :: rows => Traced.ofExcept (ofValues id title header (.list rows) keyName none)

end RichText.Dataset
