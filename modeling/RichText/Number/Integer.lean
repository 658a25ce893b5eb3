import RichText.Number.Binary64

/-!
Integers as text: an optional sign and digits of any script, up to a limit. Single underscores may stand
between digits.
-/

namespace RichText.Integer

/-- The digits of a text that starts and ends with a digit and has no two underscores in a row. -/
def digitsBetweenUnderscores? : Text → Option Text
  | [] => none
  | [digit] => if Text.isDecimal digit then some [digit] else none
  | digit :: '_' :: rest =>
      if Text.isDecimal digit then (digitsBetweenUnderscores? rest).map (digit :: ·) else none
  | digit :: rest =>
      if Text.isDecimal digit then (digitsBetweenUnderscores? rest).map (digit :: ·) else none

/-- The most digits that an integer may be written with. -/
def digitLimit : Nat := 4300

/-- The sign and the digits of an integer between optional blanks, however many these are. -/
def signAndDigits? (text : Text) : Option (Bool × Text) :=
  let (negative, rest) := Binary64.readSign (Binary64.trimNumber text)
  (digitsBetweenUnderscores? rest).map fun digits => (negative, digits)

/-- Reads an integer between optional blanks. -/
def read? (text : Text) : Option Int :=
  match signAndDigits? text with
  | none => none
  | some (negative, digits) =>
      if digitLimit < digits.length then none
      else
        let value : Int := Binary64.digitsValue digits
        some (if negative then -value else value)

/-- The number of digits of an integer that has too many of them. -/
def excess? (text : Text) : Option Nat :=
  ((signAndDigits? text).map fun (_, digits) => digits.length).filter (digitLimit < ·)

/-- Whether a byte may be part of an integer or of the blanks around it. -/
def isByte (byte : UInt8) : Bool := byte < 0x1c || (0x20 ≤ byte && byte < 0x80)

def readBytes? (bytes : List UInt8) : Option Int :=
  if bytes.all isByte then read? (bytes.map fun byte => Char.ofNat byte.toNat) else none

end RichText.Integer
