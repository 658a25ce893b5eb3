import RichText.Text.Ranges

/-!
Decimal digits of every script. Each script has ten consecutive code points for the digits zero to
nine, so the table lists the zeros. Superscripts, circled digits and the like count as digits in the
wider sense only: they look like a digit but do not stand in a decimal number.
-/

namespace RichText.Text

/-- The zero of each script, in increasing order. -/
def decimalZeros : List Nat := [
  48, 1632, 1776, 1984, 2406, 2534, 2662, 2790, 2918, 3046, 3174, 3302, 3430, 3558, 3664, 3792,
  3872, 4160, 4240, 6112, 6160, 6470, 6608, 6784, 6800, 6992, 7088, 7232, 7248, 42528, 43216,
  43264, 43472, 43504, 43600, 44016, 65296, 66720, 68912, 69734, 69872, 69942, 70096, 70384,
  70736, 70864, 71248, 71360, 71472, 71904, 72016, 72784, 73040, 73120, 92768, 92864, 93008,
  120782, 120792, 120802, 120812, 120822, 123200, 123632, 125264, 130032]

def decimalValueIn : List Nat → Nat → Option Nat
  | [], _ => none
  | first :: others, code =>
      if code < first then none
      else if code < first + 10 then some (code - first)
      else decimalValueIn others code

def decimalValue (char : Char) : Option Nat := decimalValueIn decimalZeros char.toNat

def isDecimal (char : Char) : Bool := (decimalValue char).isSome

/-- Runs of characters that show a digit without being part of a decimal number. -/
def ornamentalDigitRanges : List (Nat × Nat) := [
  (178, 179), (185, 185), (4969, 4977), (6618, 6618), (8304, 8304), (8308, 8313), (8320, 8329),
  (9312, 9320), (9332, 9340), (9352, 9360), (9450, 9450), (9461, 9469), (9471, 9471),
  (10102, 10110), (10112, 10120), (10122, 10130), (68160, 68163), (69216, 69224), (69714, 69722),
  (127232, 127242)]

/-- A digit in the wider sense: decimal or ornamental. -/
def isDigit (char : Char) : Bool := isDecimal char || inRanges ornamentalDigitRanges char

def isAsciiDigit (char : Char) : Bool := '0' ≤ char && char ≤ '9'

def isAsciiLetter (char : Char) : Bool :=
  ('a' ≤ char && char ≤ 'z') || ('A' ≤ char && char ≤ 'Z')

end RichText.Text
