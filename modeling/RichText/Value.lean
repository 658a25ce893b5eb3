import RichText.Number.Binary64

/-!
Values of data files and record fields: scalars, and collections of any nesting. A mapping keeps the
order in which its keys first appear; keys may be scalars of any kind.

A collection may contain itself, by way of others or at once. Such a collection is written with a
label, and the label stands for it where it occurs again. Its items are looked at after it is opened,
which puts the whole collection back in the place of its label.
-/

namespace RichText

structure Date where
  year : Nat
  month : Nat
  day : Nat
  deriving DecidableEq, Repr, Inhabited

/-- A time of day on a date. The offset from universal time is in seconds, if one is given. -/
structure Instant where
  date : Date
  hour : Nat
  minute : Nat
  second : Nat
  microsecond : Nat
  offset : Option Int
  deriving DecidableEq, Repr, Inhabited

/-- The collections that can contain themselves. -/
inductive Shape
  | list
  | map
  | pair
  deriving DecidableEq, Repr, Inhabited

def Shape.kindName : Shape → Text
  | .list => "list"
  | .map => "dict"
  | .pair => "tuple"

inductive Value
  | null
  | bool (value : Bool)
  | int (value : Int)
  | float (value : Binary64)
  | text (value : Text)
  | bytes (value : List UInt8)
  | date (value : Date)
  | instant (value : Instant)
  | list (items : List Value)
  /-- Scalars without an order of their own, each once. -/
  | set (items : List Value)
  | map (entries : List (Value × Value))
  /-- An entry of a mapping that is kept as a list. -/
  | pair (first second : Value)
  /-- A collection that contains itself, with its label. -/
  | loop (label : Nat) (value : Value)
  /-- The collection with a label, inside of that collection. -/
  | again (label : Nat) (shape : Shape)
  deriving Repr, Inhabited

namespace Value

instance : Coe Text Value := ⟨Value.text⟩

mutual

/-- Puts a collection in the place of its label. -/
def filled (label : Nat) (whole : Value) : Value → Value
  | .again other shape => if other = label then whole else .again other shape
  | .loop other value =>
      if other = label then .loop other value else .loop other (filled label whole value)
  | .list items => .list (filledItems label whole items)
  | .map entries => .map (filledEntries label whole entries)
  | .pair first second => .pair (filled label whole first) (filled label whole second)
  | value => value

def filledItems (label : Nat) (whole : Value) : List Value → List Value
  | [] => []
  | item :: items => filled label whole item :: filledItems label whole items

def filledEntries (label : Nat) (whole : Value) : List (Value × Value) → List (Value × Value)
  | [] => []
  | (key, value) :: entries => (key, filled label whole value) :: filledEntries label whole entries

end

/-- A value whose items can be looked at one by one. -/
def opened : Value → Value
  | .loop label value => filled label (.loop label value) value
  | value => value

/-- Whether a value counts as present: not null, false, zero, or empty. -/
def isTruthy : Value → Bool
  | .null => false
  | .bool value => value
  | .int value => value ≠ 0
  | .float value => !value.isZero
  | .text value => !value.isEmpty
  | .bytes value => !value.isEmpty
  | .date _ => true
  | .instant _ => true
  | .list items => !items.isEmpty
  | .set items => !items.isEmpty
  | .map entries => !entries.isEmpty
  | .pair .. => true
  | .loop _ value => value.isTruthy
  | .again .. => true

/-- The number that a truth value, an integer or a float is equal to. -/
inductive Number
  | int (value : Int)
  | float (value : Binary64)

def number? : Value → Option Number
  | .bool value => some (.int (if value then 1 else 0))
  | .int value => some (.int value)
  | .float value => some (.float value)
  | _ => none

def Number.same : Number → Number → Bool
  | .int left, .int right => left = right
  | .int left, .float right => right.toInt? = some left
  | .float left, .int right => left.toInt? = some right
  | .float left, .float right => left.sameNumber right

/-- Whether two scalars are the same mapping key. Numbers of any kind are compared by their value. -/
def sameKey (left right : Value) : Bool :=
  match left.number?, right.number? with
  | some left, some right => left.same right
  | some _, none => false
  | none, some _ => false
  | none, none =>
      match left, right with
      | .null, .null => true
      | .text left, .text right => left = right
      | .bytes left, .bytes right => left = right
      | .date left, .date right => left = right
      | .instant left, .instant right => left = right
      | _, _ => false

/-- Stores something under a key: at the key's place if it is there, at the end otherwise. -/
def insert {α : Type} (entries : List (Value × α)) (key : Value) (value : α) : List (Value × α) :=
  match entries with
  | [] => [(key, value)]
  | (other, old) :: rest =>
      if sameKey other key then (other, value) :: rest else (other, old) :: insert rest key value

def lookup (name : Text) : List (Value × Value) → Option Value
  | [] => none
  | (.text other, value) :: rest => if other = name then some value else lookup name rest
  | _ :: rest => lookup name rest

/-- The value of a field, null where the field is missing. -/
def field (name : Text) (entries : List (Value × Value)) : Value := (lookup name entries).getD .null

/-- The value of a field with a default for a missing one. -/
def fieldOr (name : Text) (default : Value) (entries : List (Value × Value)) : Value :=
  (lookup name entries).getD default

/-- The values that a value is made of, one by one: the items of a list, the characters of a text, the
keys of a mapping. -/
def series? (value : Value) : Option (List Value) :=
  match value.opened with
  | .list items => some items
  | .set items => some items
  | .pair first second => some [first, second]
  | .text value => some (value.map fun char => .text [char])
  | .bytes value => some (value.map fun byte => .int byte.toNat)
  | .map entries => some (entries.map Prod.fst)
  | _ => none

def kindName : Value → Text
  | .null => "NoneType"
  | .bool _ => "bool"
  | .int _ => "int"
  | .float _ => "float"
  | .text _ => "str"
  | .bytes _ => "bytes"
  | .date _ => "date"
  | .instant _ => "datetime"
  | .list _ => "list"
  | .set _ => "set"
  | .map _ => "dict"
  | .pair .. => "tuple"
  | .loop _ value => value.kindName
  | .again _ shape => shape.kindName

end Value

end RichText
