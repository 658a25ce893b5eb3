import RichText.Number.Binary64

/-!
Whole amounts with a comma before every three digits from the right. A number is rounded to the
nearest integer first, a tie to the even one, and a negative number keeps its sign even at zero.
-/

namespace RichText

/-- Digits, last first, with a comma after every third one that another digit follows. -/
def groupReversed : Text → Text
  | first :: second :: third :: fourth :: rest =>
      first :: second :: third :: ',' :: groupReversed (fourth :: rest)
  | digits => digits

def grouped (number : Nat) : Text := (groupReversed (Text.ofNat number).reverse).reverse

namespace Binary64

def toGroupedText : Binary64 → Text
  | .notANumber => "nan"
  | .infinite negative => if negative then "-inf" else "inf"
  | .finite negative mantissa exponent =>
      let (numerator, denominator) := ratio mantissa exponent
      let amount := grouped (roundHalfEven numerator denominator)
      if negative then '-' :: amount else amount

end Binary64

end RichText
