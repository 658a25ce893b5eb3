import RichText.Number.Binary64

/-!
The decimal text of a binary number: the fewest digits that read back to it, and of those the nearest.
Powers of ten from 10⁻⁴ up to below 10¹⁶ are written positionally.
-/

namespace RichText.Binary64

/-- The exponent of the greatest power of ten at most a positive ratio. Below one it is found as the
least number of places that lifts the ratio to one or more. -/
def decimalOrder (numerator denominator : Nat) : Int :=
  let wholeDigits : Int := (Nat.toDigits 10 (numerator / denominator)).length
  if numerator ≥ denominator then wholeDigits - 1
  else
    let places := (List.range 400).find? fun places => numerator * Nat.pow 10 places ≥ denominator
    Int.negOfNat (places.getD 400)

/-- The ratio in units of a power of ten. -/
def inUnits (numerator denominator : Nat) : Int → Nat × Nat
  | .ofNat power => (numerator, denominator * Nat.pow 10 power)
  | .negSucc power => (numerator * Nat.pow 10 (power + 1), denominator)

/-- A decimal with a given number of digits that reads back, with its unit; of two the nearer. -/
def decimalOfSize? (mantissa : Nat) (exponent : Int) (order : Int) (size : Nat) :
    Option (Nat × Int) :=
  let (numerator, denominator) := ratio mantissa exponent
  let power : Int := order - size + 1
  let (above, below) := inUnits numerator denominator power
  let nearest := roundHalfEven above below
  let other := if nearest = above / below then nearest + 1 else nearest - 1
  let readsBack (digits : Nat) : Bool :=
    ofDecimal false digits power = .finite false mantissa exponent
  if readsBack nearest then some (nearest, power)
  else if readsBack other then some (other, power)
  else none

/-- The shortest decimal that reads back: digits and the power of ten of their unit. -/
def shortest (mantissa : Nat) (exponent : Int) : Nat × Int :=
  let (numerator, denominator) := ratio mantissa exponent
  let order := decimalOrder numerator denominator
  ((List.range 17).findSome? fun size => decimalOfSize? mantissa exponent order (size + 1)).getD
    (mantissa, exponent)

/-- Removes trailing zeros, raising the unit; the fuel bounds their number. -/
def dropZeros : Nat → Nat → Int → Nat × Int
  | 0, digits, power => (digits, power)
  | fuel + 1, digits, power =>
      if digits % 10 = 0 && digits ≠ 0 then dropZeros fuel (digits / 10) (power + 1)
      else (digits, power)

/-- How numbers are spelled: where the point may stand, and the words for what is no number. -/
structure Spelling where
  /-- The least number of digits before the point that is still written positionally. -/
  lowestPoint : Int
  /-- The greatest such number. -/
  highestPoint : Int
  /-- The least number of digits of an exponent. -/
  exponentDigits : Nat

def spelling : Spelling := ⟨-3, 16, 2⟩

def padded (size : Nat) (digits : Text) : Text :=
  List.replicate (size - digits.length) '0' ++ digits

def positional (digits : Text) (point : Int) : Text :=
  if point ≤ 0 then "0." ++ List.replicate point.natAbs '0' ++ digits
  else
    let point := point.toNat
    if digits.length ≤ point then digits ++ List.replicate (point - digits.length) '0' ++ ".0"
    else digits.take point ++ "." ++ digits.drop point

def scientific (spelling : Spelling) (digits : Text) (point : Int) : Text :=
  let exponent := point - 1
  let mantissa :=
    match digits with
    | first :: second :: rest => first :: '.' :: second :: rest
    | digits => digits
  let sign : Char := if exponent < 0 then '-' else '+'
  mantissa ++ 'e' :: sign :: padded spelling.exponentDigits (Text.ofNat exponent.natAbs)

def signed (negative : Bool) (text : Text) : Text := if negative then '-' :: text else text

def toText : Binary64 → Text
  | .notANumber => "nan"
  | .infinite negative => signed negative "inf"
  | .finite negative mantissa exponent =>
      if mantissa = 0 then signed negative "0.0"
      else
        let (digits, power) := shortest mantissa exponent
        let (digits, power) := dropZeros 400 digits power
        let digits := Text.ofNat digits
        let point : Int := digits.length + power
        signed negative
          (if spelling.lowestPoint ≤ point && point ≤ spelling.highestPoint then
            positional digits point
          else scientific spelling digits point)

end RichText.Binary64
