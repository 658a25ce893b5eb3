import RichText.Number.Integer
import RichText.Text.Case
import RichText.Text.Reference
import RichText.Yaml.Fault

/-!
Numbers as YAML writes them. Integers have binary, octal, decimal, hexadecimal and sexagesimal forms,
floats decimal and sexagesimal ones; underscores may stand among the digits. An exponent needs both a
point before it and a sign.
-/

namespace RichText.Yaml.Numeral

def isSign (char : Char) : Bool := char = '-' || char = '+'

def withoutSign : Text → Text
  | [] => []
  | char :: rest => if isSign char then rest else char :: rest

def isDigitOrLine (char : Char) : Bool := Text.isAsciiDigit char || char = '_'

def startsWithDigit (text : Text) : Bool := text.head?.any Text.isAsciiDigit

/-- One or two digits of a number below sixty. -/
def isSixtieth : Text → Bool
  | [digit] => Text.isAsciiDigit digit
  | [tens, units] => '0' ≤ tens && tens ≤ '5' && Text.isAsciiDigit units
  | _ => false

/-- Digits in groups between colons, at least two of them. -/
def isSexagesimal (text : Text) : Bool :=
  match Text.pieces (· = ':') text with
  | first :: second :: others =>
      startsWithDigit first && first.all isDigitOrLine && (second :: others).all isSixtieth
  | _ => false

/-- The forms of integers without their sign. -/
def isUnsignedInteger (text : Text) : Bool :=
  match text with
  | '0' :: 'b' :: digits =>
      !digits.isEmpty && digits.all fun char => char = '0' || char = '1' || char = '_'
  | '0' :: 'x' :: digits =>
      !digits.isEmpty && digits.all fun char => Text.Reference.isHexDigit char || char = '_'
  | '0' :: digits => digits.all fun char => ('0' ≤ char && char ≤ '7') || char = '_'
  | text => startsWithDigit text && (text.all isDigitOrLine || isSexagesimal text)

def isInteger (text : Text) : Bool := isUnsignedInteger (withoutSign text)

/-- An exponent with its sign, or nothing. -/
def isExponent : Text → Bool
  | [] => true
  | mark :: sign :: digits =>
      (mark = 'e' || mark = 'E') && isSign sign && !digits.isEmpty && digits.all Text.isAsciiDigit
  | _ => false

/-- A point, digits, and an exponent. -/
def isFraction : Text → Bool
  | '.' :: rest => isExponent (rest.dropWhile isDigitOrLine)
  | _ => false

def isSexagesimalFloat (text : Text) : Bool :=
  isSexagesimal (text.takeWhile (· ≠ '.')) &&
    match text.dropWhile (· ≠ '.') with
    | '.' :: digits => digits.all isDigitOrLine
    | _ => false

def infinityWords : List Text := [(".inf" : Text), ".Inf", ".INF"]

def notANumberWords : List Text := [(".nan" : Text), ".NaN", ".NAN"]

def isFloat (text : Text) : Bool :=
  let unsigned := withoutSign text
  (startsWithDigit unsigned &&
      (isFraction (unsigned.dropWhile isDigitOrLine) || isSexagesimalFloat unsigned)) ||
    (startsWithDigit (text.drop 1) && isFraction text) ||
    infinityWords.contains unsigned || notANumberWords.contains text

def withoutLines (text : Text) : Text := text.filter (· ≠ '_')

def isDigitOf (base : Nat) (char : Char) : Bool :=
  (Text.Reference.hexValue? char).any fun value => value < base

def inBase (base : Nat) (digits : Text) : Except ScalarFault Nat :=
  if digits.isEmpty || !digits.all (isDigitOf base) then .error (.notAnInteger base digits)
  else .ok (Text.Reference.valueOf base digits)

def decimal (digits : Text) : Except ScalarFault Int :=
  match Integer.read? digits, Integer.excess? digits with
  | some value, _ => .ok value
  | none, some count => .error (.tooManyDigits count)
  | none, none => .error (.notAnInteger 10 digits)

/-- The value of digit groups, each of which counts sixty of the next one. -/
def sexagesimal (groups : List Text) : Except ScalarFault Int :=
  groups.foldlM (fun value group => (decimal group).map fun digit => value * 60 + digit) 0

def unsignedInteger (text : Text) : Except ScalarFault Int :=
  match text with
  | [] => .error .emptyNumber
  | '0' :: 'b' :: digits => (inBase 2 digits).map Int.ofNat
  | '0' :: 'x' :: digits => (inBase 16 digits).map Int.ofNat
  | '0' :: digits => (inBase 8 ('0' :: digits)).map Int.ofNat
  | text => if text.contains ':' then sexagesimal (Text.pieces (· = ':') text) else decimal text

def integer (text : Text) : Except ScalarFault Int :=
  let text := withoutLines text
  let negative := text.head? = some '-'
  (unsignedInteger (withoutSign text)).map fun value => if negative then -value else value

def float (text : Text) : Except ScalarFault Binary64 :=
  if text = "inf" || text = "infinity" then .ok (.infinite false)
  else if text = "nan" then .ok .notANumber
  else ((Binary64.read? text).map .ok).getD (.error (.notAFloat text))

/-- A float times a natural, and then added to another one, each step rounded. Both floats are finite
and not negative. -/
def addScaled (sum : Binary64) (factor : Nat) (digit : Binary64) : Binary64 :=
  match sum, digit with
  | .finite _ mantissa exponent, .finite _ digitMantissa digitExponent =>
      let (above, below) := Binary64.ratio digitMantissa digitExponent
      match Binary64.ofRatio false (above * factor) below with
      | .finite _ scaledMantissa scaledExponent =>
          let (left, leftBelow) := Binary64.ratio mantissa exponent
          let (right, rightBelow) := Binary64.ratio scaledMantissa scaledExponent
          Binary64.ofRatio false (left * rightBelow + right * leftBelow) (leftBelow * rightBelow)
      | other => other
  | _, other => other

/-- The sum of digit groups, the last first, whose factors grow by sixty. -/
def sumGroups (sum : Binary64) (factor : Nat) : List Text → Except ScalarFault Binary64
  | [] => .ok sum
  | group :: groups => do
      let digit ← float group
      sumGroups (addScaled sum factor digit) (factor * 60) groups

def negated : Binary64 → Binary64
  | .notANumber => .notANumber
  | .infinite negative => .infinite !negative
  | .finite negative mantissa exponent => .finite (!negative) mantissa exponent

def unsignedFloat (text : Text) : Except ScalarFault Binary64 :=
  if text = ".inf" then .ok (.infinite false)
  else if text = ".nan" then .ok .notANumber
  else if text.contains ':' then
    sumGroups .zero 1 (Text.pieces (· = ':') text).reverse
  else float text

def floating (text : Text) : Except ScalarFault Binary64 :=
  let text := Text.lower (withoutLines text)
  if text.isEmpty then .error .emptyNumber
  else
    let negative := text.head? = some '-'
    (unsignedFloat (withoutSign text)).map fun value => if negative then negated value else value

end RichText.Yaml.Numeral
