import RichText.Text.Slug
import RichText.Text.Tags
import RichText.Text.Word

/-!
The headings of a rendered fragment. A heading goes from its opening tag to the nearest closing tag of
the same level. Its anchor is the `id` of the tag, or the slug of its text; headings without text are
passed over. A reference that cannot be read, in the text or in the `id`, stops the scan.
-/

namespace RichText.Page

structure Heading where
  level : Nat
  anchor : Text
  text : Text
  deriving DecidableEq, Repr

namespace Heading

/-- The value of the first `id` attribute in the attributes of a tag; a word character before the
name would make it another name. -/
def idIn? (afterWord : Bool) : Text → Option Text
  | [] => none
  | char :: rest =>
      let value? : Option Text :=
        match char, rest with
        | 'i', 'd' :: '=' :: '"' :: quoted =>
            if !afterWord && quoted.contains '"' then some (quoted.takeWhile (· ≠ '"')) else none
        | _, _ => none
      match value? with
      | some value => some value
      | none => idIn? (Text.isWord char) rest

/-- Whether a text starts with the closing tag of a level, in either letter case. -/
def closes (digit : Char) : Text → Bool
  | '<' :: '/' :: letter :: level :: '>' :: _ => (letter = 'h' || letter = 'H') && level = digit
  | _ => false

/-- The text up to the closing tag of a level. -/
def inner? (digit : Char) : Text → Option Text
  | [] => none
  | char :: rest =>
      if closes digit (char :: rest) then some []
      else (inner? digit rest).map (char :: ·)

/-- The heading that starts with a text: the attributes of its tag, what it contains, and how many
characters it takes. -/
def read? : Text → Option (Nat × Text × Text × Nat)
  | '<' :: letter :: digit :: rest =>
      let level := digit.toNat - '0'.toNat
      let wordGoesOn := (rest.head?.map Text.isWord).getD false
      if (letter = 'h' || letter = 'H') && '1' ≤ digit && digit ≤ '6' && !wordGoesOn then
        match rest.dropWhile (· ≠ '>') with
        | [] => none
        | _ :: content =>
            let attributes := rest.takeWhile (· ≠ '>')
            (inner? digit content).map fun inner =>
              (level, attributes, inner, 3 + attributes.length + 1 + inner.length + 5)
      else none
  | _ => none

/-- The anchor of a heading with the given attributes and text. -/
def anchorOf (attributes text : Text) : Except Text.Reference.Fault Text :=
  match idIn? false attributes with
  | some id => Text.unescaped id
  | none => .ok (Text.slug text)

/-- The heading with the given parts, unless its text is blank. -/
def ofParts (level : Nat) (attributes inner : Text) :
    Except Text.Reference.Fault (Option Heading) := do
  let shown ← Text.ofMarkup inner
  let text := Text.trim shown
  let anchor ← anchorOf attributes text
  return if text.isEmpty then none else some ⟨level, anchor, text⟩

def scanAfter : Nat → Text → Except Text.Reference.Fault (List Heading)
  | _, [] => return []
  | passed + 1, _ :: rest => scanAfter passed rest
  | 0, char :: rest =>
      match read? (char :: rest) with
      | some (level, attributes, inner, size) => do
          let heading ← ofParts level attributes inner
          let others ← scanAfter (size - 1) rest
          return heading.toList ++ others
      | none => scanAfter 0 rest

def scan (fragment : Text) : Except Text.Reference.Fault (List Heading) := scanAfter 0 fragment

end Heading

end RichText.Page
