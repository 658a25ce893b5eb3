import RichText.Number.Integer
import RichText.Text.ReferenceNames

/-!
Reading character references back. A reference is numeric or named; a name that is not known as a
whole may start with one that is, and then only that beginning is replaced. A decimal reference has no
more digits than an integer may have; there is no such limit for hexadecimal ones.
-/

namespace RichText.Text

namespace Reference

/-- Code points that references use for characters of an older code page. -/
def legacyCodes : List (Nat × Char) := [
  (0x00, '\ufffd'), (0x0d, '\r'), (0x80, '\u20ac'), (0x81, '\u0081'), (0x82, '\u201a'),
  (0x83, '\u0192'), (0x84, '\u201e'), (0x85, '\u2026'), (0x86, '\u2020'), (0x87, '\u2021'),
  (0x88, '\u02c6'), (0x89, '\u2030'), (0x8a, '\u0160'), (0x8b, '\u2039'), (0x8c, '\u0152'),
  (0x8d, '\u008d'), (0x8e, '\u017d'), (0x8f, '\u008f'), (0x90, '\u0090'), (0x91, '\u2018'),
  (0x92, '\u2019'), (0x93, '\u201c'), (0x94, '\u201d'), (0x95, '\u2022'), (0x96, '\u2013'),
  (0x97, '\u2014'), (0x98, '\u02dc'), (0x99, '\u2122'), (0x9a, '\u0161'), (0x9b, '\u203a'),
  (0x9c, '\u0153'), (0x9d, '\u009d'), (0x9e, '\u017e'), (0x9f, '\u0178')]

/-- Controls and code points set aside for internal use, to which a reference gives no character. -/
def isForbiddenCode (code : Nat) : Bool :=
  (1 ≤ code && code ≤ 8) || code = 0xb || (0xe ≤ code && code ≤ 0x1f) ||
    (0x7f ≤ code && code ≤ 0x9f) || (0xfdd0 ≤ code && code ≤ 0xfdef) || code % 0x10000 ≥ 0xfffe

/-- The text that a numeric reference stands for. -/
def ofCode (code : Nat) : Text :=
  match legacyCodes.lookup code with
  | some char => [char]
  | none =>
      if (0xd800 ≤ code && code ≤ 0xdfff) || code > 0x10ffff then ['\ufffd']
      else if isForbiddenCode code then []
      else [Char.ofNat code]

def hexValue? (char : Char) : Option Nat :=
  if isAsciiDigit char then some (char.toNat - 48)
  else if 'a' ≤ char && char ≤ 'f' then some (char.toNat - 87)
  else if 'A' ≤ char && char ≤ 'F' then some (char.toNat - 55)
  else none

def isHexDigit (char : Char) : Bool := (hexValue? char).isSome

/-- The number that digits write in a base. -/
def valueOf (base : Nat) (digits : Text) : Nat :=
  digits.foldl (fun value digit => value * base + (hexValue? digit).getD 0) 0

/-- One more when a semicolon closes the reference. -/
def closingSize : Text → Nat
  | ';' :: _ => 1
  | _ => 0

def isNameChar (char : Char) : Bool :=
  !(char = '\t' || char = '\n' || char = '\x0c' || char = ' ' || char = '<' || char = '&' ||
    char = '#' || char = ';')

/-- Replacement of the longest known name, of at least two characters, that a name starts with. -/
def longestStart? (name : Text) : Nat → Option Text
  | 0 => none
  | 1 => none
  | size + 1 =>
      match named? (name.take (size + 1)) with
      | some text => some (text ++ name.drop (size + 1))
      | none => longestStart? name size

/-- What a name stands for, whole or by its start. -/
def ofName? (name : Text) : Option Text :=
  match named? name with
  | some text => some text
  | none => longestStart? name (name.length - 1)

def numeric? (base : Nat) (isBaseDigit : Char → Bool) (markSize : Nat) (rest : Text) :
    Option (Text × Nat) :=
  let digits := rest.takeWhile isBaseDigit
  if digits.isEmpty then none
  else
    some (ofCode (valueOf base digits),
      markSize + digits.length + closingSize (rest.dropWhile isBaseDigit))

/-- The reference that follows an ampersand: its replacement, and how many characters it takes. The limit
of digits is left to those who read whole texts. -/
def read? : Text → Option (Text × Nat)
  | '#' :: 'x' :: rest => numeric? 16 isHexDigit 2 rest
  | '#' :: 'X' :: rest => numeric? 16 isHexDigit 2 rest
  | '#' :: rest => numeric? 10 isAsciiDigit 1 rest
  | rest =>
      let letters := (rest.take 32).takeWhile isNameChar
      let size := letters.length + closingSize (rest.drop letters.length)
      if letters.isEmpty then none
      else (ofName? (rest.take size)).map fun text => (text, size)

/-- Whether a decimal reference that follows an ampersand has too many digits. -/
def isOverlong : Text → Bool
  | '#' :: rest => Integer.digitLimit < (rest.takeWhile isAsciiDigit).length
  | _ => false

/-- What keeps the references of a text from being read. -/
inductive Fault
  | tooManyDigits
  deriving DecidableEq, Repr

end Reference

/-- Replaces references after passing over a number of characters. -/
def unescapeAfter : Nat → Text → Text
  | _, [] => []
  | skipped + 1, _ :: rest => unescapeAfter skipped rest
  | 0, '&' :: rest =>
      match Reference.read? rest with
      | some (text, size) => text ++ unescapeAfter size rest
      | none => '&' :: unescapeAfter 0 rest
  | 0, char :: rest => char :: unescapeAfter 0 rest

/-- The text with every character reference replaced, however many digits it has. -/
def unescape (text : Text) : Text := unescapeAfter 0 text

/-- Whether no reference of a text has too many digits. -/
def isLegible : Text → Bool
  | [] => true
  | '&' :: rest => !Reference.isOverlong rest && isLegible rest
  | _ :: rest => isLegible rest

/-- The text with every character reference replaced, unless one has too many digits. -/
def unescaped (text : Text) : Except Reference.Fault Text :=
  if text.isLegible then .ok (unescape text) else .error .tooManyDigits

end RichText.Text
