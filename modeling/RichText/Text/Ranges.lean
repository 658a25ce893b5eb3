import RichText.Text.Basic

/-!
Sets of code points, given as runs `(first, last)` in increasing order.
-/

namespace RichText.Text

/-- Whether a code point lies in one of the runs; the search stops at the first run beyond it. -/
def codeInRanges : List (Nat × Nat) → Nat → Bool
  | [], _ => false
  | (first, last) :: ranges, code =>
      if code < first then false
      else if code ≤ last then true
      else codeInRanges ranges code

def inRanges (ranges : List (Nat × Nat)) (char : Char) : Bool := codeInRanges ranges char.toNat

end RichText.Text
