import RichText.Number.Integer
import RichText.Value

/-!
The integer that a value stands for: a number without its fraction, a truth value as zero or one, or
the integer that a text writes.
-/

namespace RichText.Value

/-- Why a value stands for no integer. -/
inductive WholeFault
  /-- Its text, or not-a-number, has no integer value. -/
  | notANumber
  | infinite
  /-- It is of a kind that has no integer value. -/
  | wrongKind
  deriving DecidableEq, Repr

def whole : Value → Except WholeFault Int
  | .bool value => .ok (if value then 1 else 0)
  | .int value => .ok value
  | .float (.infinite _) => .error .infinite
  | .float number => (number.truncate?.map .ok).getD (.error .notANumber)
  | .text digits => ((Integer.read? digits).map .ok).getD (.error .notANumber)
  | .bytes digits => ((Integer.readBytes? digits).map .ok).getD (.error .notANumber)
  | _ => .error .wrongKind

end RichText.Value
