import RichText.Markup
import RichText.Marker
import RichText.Text.Numeral
import RichText.Text.Case

/-!
Fragments as trees: texts, comments, markers, and elements with attributes around further items. Names
of elements and attributes are plain words, everything else is escaped when it is written. The tokens of
a tree are the parts of its text that content may shape: attribute values, comments and markers.
-/

namespace RichText.Markup

def isNameChar (char : Char) : Bool := Text.isAsciiLetter char || Text.isAsciiDigit char

def isNameText (text : Text) : Bool := !text.isEmpty && text.all isNameChar

/-- The name of an element, an attribute or a flag. -/
structure Name where
  text : Text
  isName : isNameText text = true

namespace Name

theorem not_empty (name : Name) : name.text ≠ [] := by
  have valid := name.isName
  rw [isNameText, Bool.and_eq_true] at valid
  simpa using valid.1

theorem forall_char (name : Name) : ∀ char ∈ name.text, isNameChar char = true := by
  have valid := name.isName
  rw [isNameText, Bool.and_eq_true] at valid
  exact List.all_eq_true.mp valid.2

end Name

inductive Item
  | text (raw : Text)
  | comment (raw : Text)
  | marker (marker : Marker)
  | void (tag : Name) (attributes : List (Name × Text)) (flags : List Name)
  | element (tag : Name) (attributes : List (Name × Text)) (flags : List Name) (content : List Item)

/-- Attributes with their names as texts. -/
def named (attributes : List (Name × Text)) : List (Text × Text) :=
  attributes.map fun (name, value) => (name.text, value)

mutual

def Item.toText : Item → Text
  | .text raw => Text.escape raw
  | .comment raw => Text.comment raw
  | .marker given => given.toText
  | .void tag attributes flags => voidElement tag.text (named attributes) (flags.map Name.text)
  | .element tag attributes flags content =>
      flaggedElement tag.text (named attributes) (flags.map Name.text) (textOf content)

/-- The text of items in a row. -/
def textOf : List Item → Text
  | [] => []
  | item :: items => item.toText ++ textOf items

end

inductive Token
  | value (value : Text)
  | comment (raw : Text)
  | marker (marker : Marker)

def Token.marker? : Token → Option Marker
  | .marker given => some given
  | _ => none

def valueTokens (attributes : List (Name × Text)) : List Token :=
  attributes.map fun (_, value) => .value value

mutual

def Item.tokens : Item → List Token
  | .text _ => []
  | .comment raw => [.comment raw]
  | .marker given => [.marker given]
  | .void _ attributes _ => valueTokens attributes
  | .element _ attributes _ content => valueTokens attributes ++ tokensOf content

def tokensOf : List Item → List Token
  | [] => []
  | item :: items => item.tokens ++ tokensOf items

end

mutual

/-- Documents write rules and images, and elements without flags. -/
def Item.Plain : Item → Prop
  | .void tag attributes flags =>
      flags = [] ∧ (tag.text = "hr" ∧ attributes = [] ∨ tag.text = "img")
  | .element _ _ flags content => flags = [] ∧ PlainAmong content
  | _ => True

def PlainAmong : List Item → Prop
  | [] => True
  | item :: items => item.Plain ∧ PlainAmong items

end

/-- The markers of items, in order. -/
def markersOf (items : List Item) : List Marker := (tokensOf items).filterMap Token.marker?

theorem text_of_append (first second : List Item) :
    textOf (first ++ second) = textOf first ++ textOf second := by
  induction first with
  | nil => rfl
  | cons item first induction =>
      rw [List.cons_append, textOf, textOf, induction, List.append_assoc]

theorem tokens_of_append (first second : List Item) :
    tokensOf (first ++ second) = tokensOf first ++ tokensOf second := by
  induction first with
  | nil => rfl
  | cons item first induction =>
      rw [List.cons_append, tokensOf, tokensOf, induction, List.append_assoc]

theorem plain_among_append {first second : List Item} (before : PlainAmong first)
    (after : PlainAmong second) : PlainAmong (first ++ second) := by
  induction first with
  | nil => exact after
  | cons item first induction => exact ⟨before.1, induction before.2⟩

theorem text_of_singleton (item : Item) : textOf [item] = item.toText := by
  rw [textOf, textOf, List.append_nil]

theorem tokens_of_singleton (item : Item) : tokensOf [item] = item.tokens := by
  rw [tokensOf, tokensOf, List.append_nil]

theorem element_eq (tag : Text) (attributes : List (Text × Text)) (content : Text) :
    element tag attributes content = flaggedElement tag attributes [] content := by
  have noFlags : flagsText [] = [] := rfl
  delta element flaggedElement
  rw [noFlags, List.append_nil]

end RichText.Markup
