import RichText.Text.Numeral
import RichText.Text.Blank

/-!
Binary floating-point numbers of 64 bits, as exact values. A finite number is `mantissa · 2 ^ exponent`
with a sign; zero keeps its sign. Reading a decimal rounds to the nearest such number, a tie to the
even mantissa, and everything else here is exact.
-/

namespace RichText

inductive Binary64
  | notANumber
  | infinite (negative : Bool)
  | finite (negative : Bool) (mantissa : Nat) (exponent : Int)
  deriving DecidableEq, Repr, Inhabited

namespace Binary64

def zero : Binary64 := .finite false 0 (-1074)

/-- A ratio of naturals rounded to an integer, a tie to the even neighbour. -/
def roundHalfEven (numerator denominator : Nat) : Nat :=
  let quotient := numerator / denominator
  let twice := 2 * (numerator % denominator)
  if twice < denominator then quotient
  else if denominator < twice then quotient + 1
  else if quotient % 2 = 0 then quotient else quotient + 1

/-- The ratio `numerator / (denominator · 2 ^ power)` as a pair of naturals. -/
def overPowerOfTwo (numerator denominator : Nat) : Int → Nat × Nat
  | .ofNat power => (numerator, denominator * Nat.pow 2 power)
  | .negSucc power => (numerator * Nat.pow 2 (power + 1), denominator)

/-- The greatest power of two that is at most a positive ratio, by its exponent. -/
def binaryOrder (numerator denominator : Nat) : Int :=
  let guess : Int := (numerator.log2 : Int) - (denominator.log2 : Int)
  let (above, below) := overPowerOfTwo numerator denominator guess
  if above < below then guess - 1 else guess

/-- Mantissas lie below this power of two, the fifty-third. -/
def mantissaLimit : Nat := 9007199254740992

/-- The nearest number to a ratio of naturals; the denominator is not zero. -/
def ofRatio (negative : Bool) (numerator denominator : Nat) : Binary64 :=
  if numerator = 0 then .finite negative 0 (-1074)
  else
    let exponent := max (binaryOrder numerator denominator - 52) (-1074)
    let (above, below) := overPowerOfTwo numerator denominator exponent
    let mantissa := roundHalfEven above below
    let (mantissa, exponent) :=
      if mantissa = mantissaLimit then (mantissaLimit / 2, exponent + 1) else (mantissa, exponent)
    if exponent > 971 then .infinite negative else .finite negative mantissa exponent

/-- The nearest number to `digits · 10 ^ power`. Powers far outside the range are not computed. -/
def ofDecimal (negative : Bool) (digits : Nat) (power : Int) : Binary64 :=
  if digits = 0 then .finite negative 0 (-1074)
  else
    let size : Int := (Nat.toDigits 10 digits).length
    if size + power > 310 then .infinite negative
    else if size + power < -330 then .finite negative 0 (-1074)
    else
      match power with
      | .ofNat power => ofRatio negative (digits * Nat.pow 10 power) 1
      | .negSucc power => ofRatio negative digits (Nat.pow 10 (power + 1))

def ofInt (number : Int) : Binary64 := ofDecimal (number < 0) number.natAbs 0

/-- The magnitude of a finite number as a ratio of naturals. -/
def ratio (mantissa : Nat) : Int → Nat × Nat
  | .ofNat exponent => (mantissa * Nat.pow 2 exponent, 1)
  | .negSucc exponent => (mantissa, Nat.pow 2 (exponent + 1))

def isZero : Binary64 → Bool
  | .finite _ mantissa _ => mantissa = 0
  | _ => false

/-- The integer that a finite number equals, if it is one. -/
def toInt? : Binary64 → Option Int
  | .finite negative mantissa exponent =>
      let (above, below) := ratio mantissa exponent
      if above % below = 0 then
        some (if negative then -((above / below : Nat) : Int) else ((above / below : Nat) : Int))
      else none
  | _ => none

/-- The integer next to a finite number in the direction of zero. -/
def truncate? : Binary64 → Option Int
  | .finite negative mantissa exponent =>
      let (above, below) := ratio mantissa exponent
      some (if negative then -((above / below : Nat) : Int) else ((above / below : Nat) : Int))
  | _ => none

/-- Equality of numbers: zeros of either sign are equal, and no number equals not-a-number. -/
def sameNumber (left right : Binary64) : Bool :=
  match left, right with
  | .notANumber, _ => false
  | _, .notANumber => false
  | left, right => left = right || (left.isZero && right.isZero)

/-- A blank that may surround a number; the information separators may not. -/
def isNumberBlank (char : Char) : Bool :=
  Text.isBlank char && !('\x1c' ≤ char && char ≤ '\x1f')

def trimNumber (text : Text) : Text :=
  Text.dropEndWhile isNumberBlank (text.dropWhile isNumberBlank)

/-- The number that digits of any script write. -/
def digitsValue (digits : Text) : Nat :=
  digits.foldl (fun value digit => value * 10 + (Text.decimalValue digit).getD 0) 0

/-- An optional sign: whether it is a minus, and the rest. -/
def readSign : Text → Bool × Text
  | '-' :: rest => (true, rest)
  | '+' :: rest => (false, rest)
  | rest => (false, rest)

/-- An exponent part, zero where there is none. -/
def readExponent (rest : Text) : Option Int :=
  match rest with
  | [] => some 0
  | mark :: rest =>
      if mark = 'e' || mark = 'E' then
        let (negative, digits) := readSign rest
        if digits.isEmpty || !digits.all Text.isDecimal then none
        else
          let value : Int := digitsValue digits
          some (if negative then -value else value)
      else none

/-- Reads a sign, digits with an optional point, and an optional exponent, up to the end. -/
def readNumeral? (text : Text) : Option Binary64 :=
  let (negative, rest) := readSign text
  let whole := rest.takeWhile Text.isDecimal
  let rest := rest.dropWhile Text.isDecimal
  let (fraction, rest) :=
    match rest with
    | '.' :: rest => (rest.takeWhile Text.isDecimal, rest.dropWhile Text.isDecimal)
    | rest => ([], rest)
  if whole.isEmpty && fraction.isEmpty then none
  else
    (readExponent rest).map fun exponent =>
      ofDecimal negative (digitsValue (whole ++ fraction)) (exponent - fraction.length)

/-- Reads a numeral between optional blanks. -/
def read? (text : Text) : Option Binary64 := readNumeral? (trimNumber text)

end Binary64

end RichText
