import RichText.Text.Utf8
import RichText.Value.Spelling

/-!
Reading settings and records from values while collecting everything that is wrong with them. A reading
of several parts fails with the issues of all parts in their order, each with the way that leads to it.
-/

namespace RichText

/-- One step on the way to a part of a value. -/
inductive Step
  | name (name : Text)
  | number (number : Int)
  /-- The key of an item, rather than its value. -/
  | keyItself
  deriving DecidableEq, Repr

/-- What is wrong with a part. -/
inductive Flaw
  | missing
  | notText
  /-- Bytes that are no text. -/
  | notUnicode
  | notList
  | notMapping
  /-- A group of fields is expected. -/
  | notFields
  | notTruth
  /-- A text or a number that means neither yes nor no. -/
  | unclearTruth
  | notAChoice
  /-- The parts are well formed, but not together. -/
  | rule (message : Text)
  deriving DecidableEq, Repr

structure Issue where
  way : List Step
  flaw : Flaw
  deriving DecidableEq, Repr

inductive Checked (α : Type)
  | valid (value : α)
  | invalid (issues : List Issue)
  /-- The value has a shape that cannot even be looked through. -/
  | unreadable
  deriving Repr

namespace Checked

variable {α β : Type}

def map (change : α → β) : Checked α → Checked β
  | .valid value => .valid (change value)
  | .invalid issues => .invalid issues
  | .unreadable => .unreadable

/-- Both parts; the issues of the first come first. -/
def pair : Checked α → Checked β → Checked (α × β)
  | .unreadable, _ => .unreadable
  | _, .unreadable => .unreadable
  | .invalid issues, .invalid others => .invalid (issues ++ others)
  | .invalid issues, .valid _ => .invalid issues
  | .valid _, .invalid issues => .invalid issues
  | .valid left, .valid right => .valid (left, right)

instance : Applicative Checked where
  pure := .valid
  seq change value := (pair change (value ())).map fun (change, value) => change value

def all : List (Checked α) → Checked (List α)
  | [] => .valid []
  | first :: others => (pair first (all others)).map fun (value, values) => value :: values

def fail (flaw : Flaw) : Checked α := .invalid [⟨[], flaw⟩]

/-- Puts a step in front of the way to every issue. -/
def under (step : Step) : Checked α → Checked α
  | .invalid issues => .invalid (issues.map fun issue => { issue with way := step :: issue.way })
  | checked => checked

/-- A further reading of a value that is well formed. -/
def andThen (checked : Checked α) (next : α → Checked β) : Checked β :=
  match checked with
  | .valid value => next value
  | .invalid issues => .invalid issues
  | .unreadable => .unreadable

/-- A text, which may also be given by its bytes. -/
def text : Value → Checked Text
  | .text value => .valid value
  | .bytes value =>
      match Text.Utf8.decode value with
      | .ok value => .valid value
      | .error _ => fail .notUnicode
  | _ => fail .notText

def textOrNull : Value → Checked (Option Text)
  | .null => .valid none
  | value => (text value).map some

def itemsFrom (check : Value → Checked α) (position : Nat) : List Value → List (Checked α)
  | [] => []
  | item :: items =>
      (check item).under (.number position) :: itemsFrom check (position + 1) items

def list (check : Value → Checked α) (value : Value) : Checked (List α) :=
  match value.opened with
  | .list items => all (itemsFrom check 0 items)
  | .set items => all (itemsFrom check 0 items)
  | _ => fail .notList

/-- Whether a number with its sign fits into 64 bits. -/
def isWordSized (number : Int) : Bool :=
  -9223372036854775808 ≤ number && number < 9223372036854775808

/-- The step to an item. Integers up to 64 bits are shown as numbers, and truth values as the numbers
that they are equal to. -/
def stepOf : Value → Step
  | .text name => .name name
  | .bool value => .number (if value then 1 else 0)
  | .int value =>
      if isWordSized value then .number value else .name (Text.ofInt value)
  | key => .name key.nested

def entry (check : Value → Checked α) (item : Value × Value) : Checked (Text × α) :=
  let step := stepOf item.1
  pair (((text item.1).under .keyItself).under step) ((check item.2).under step)

/-- A mapping with text keys. -/
def mapping (check : Value → Checked α) (value : Value) : Checked (List (Text × α)) :=
  match value.opened with
  | .map entries => all (entries.map (entry check))
  | _ => fail .notMapping

def fields (check : List (Value × Value) → Checked α) (value : Value) : Checked α :=
  match value.opened with
  | .map entries => check entries
  | _ => fail .notFields

/-- A field, or its default where it is missing. -/
def optional (name : Text) (default : α) (check : Value → Checked α)
    (entries : List (Value × Value)) : Checked α :=
  match Value.lookup name entries with
  | some value => (check value).under (.name name)
  | none => .valid default

/-- A field under the first of two names, or else under the second. -/
def optionalEither (name other : Text) (default : α) (check : Value → Checked α)
    (entries : List (Value × Value)) : Checked α :=
  match Value.lookup name entries with
  | some value => (check value).under (.name name)
  | none => optional other default check entries

def required (name : Text) (check : Value → Checked α) (entries : List (Value × Value)) :
    Checked α :=
  match Value.lookup name entries with
  | some value => (check value).under (.name name)
  | none => (fail .missing).under (.name name)

/-- A field under the first of two names, or else under the second. A missing one is named by the
first. -/
def requiredEither (name other : Text) (check : Value → Checked α)
    (entries : List (Value × Value)) : Checked α :=
  match Value.lookup name entries, Value.lookup other entries with
  | some value, _ => (check value).under (.name name)
  | none, some value => (check value).under (.name other)
  | none, none => (fail .missing).under (.name name)

end Checked

end RichText
