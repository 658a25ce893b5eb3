import Mathlib.Algebra.Ring.Nat
import Mathlib.Tactic.SplitIfs
import RichText.Number.Grouped
import RichText.Number.Shortest

/-!
Whole numbers in binary. A number with few enough significant binary digits is kept as it is; any other is
rounded to one that is kept, or is too large for all of them.
-/

namespace RichText.Binary64

/-- A natural number that a finite binary number equals: it has at most fifty-three significant binary
digits and is not too large. -/
def Fits (number : Nat) : Prop :=
  ∃ mantissa exponent, number = mantissa * 2 ^ exponent ∧ mantissa < 2 ^ 53 ∧ exponent ≤ 971

/-! ## Rounding -/

theorem round_half_even_mul (quotient : Nat) {denominator : Nat} (positive : 0 < denominator) :
    roundHalfEven (quotient * denominator) denominator = quotient := by
  have whole : quotient * denominator / denominator = quotient := Nat.mul_div_cancel _ positive
  have rest : quotient * denominator % denominator = 0 := Nat.mul_mod_left _ _
  rw [roundHalfEven, whole, rest]
  exact if_pos positive

theorem round_half_even_one (number : Nat) : roundHalfEven number 1 = number := by
  simpa using round_half_even_mul number Nat.one_pos

theorem round_half_even_le (numerator denominator : Nat) :
    roundHalfEven numerator denominator ≤ numerator / denominator + 1 := by
  simp only [roundHalfEven]
  split_ifs
  all_goals omega

/-- A rounded mantissa with its exponent, as a number. One that became too long is halved. -/
def settled (negative : Bool) (mantissa : Nat) (exponent : Int) : Binary64 :=
  let (mantissa, exponent) :=
    if mantissa = mantissaLimit then (mantissaLimit / 2, exponent + 1) else (mantissa, exponent)
  if exponent > 971 then .infinite negative else .finite negative mantissa exponent

section Whole

variable {negative : Bool} {number mantissa : Nat} {exponent : Int}

theorem settled_short (short : mantissa < mantissaLimit) (bounded : exponent ≤ 971) :
    settled negative mantissa exponent = .finite negative mantissa exponent := by
  rw [settled, if_neg (Nat.ne_of_lt short)]
  exact if_neg (by omega)

theorem settled_cases (bounded : mantissa ≤ mantissaLimit) :
    settled negative mantissa exponent = .infinite negative ∨
      ∃ kept power, settled negative mantissa exponent = .finite negative kept power ∧
        kept < mantissaLimit ∧ exponent ≤ power ∧ power ≤ 971 := by
  unfold settled
  by_cases long : mantissa = mantissaLimit
  · rw [if_pos long]
    by_cases above : exponent + 1 > 971
    · exact .inl (if_pos above)
    · exact .inr ⟨_, _, if_neg above, by decide, by omega, by omega⟩
  · rw [if_neg long]
    by_cases above : exponent > 971
    · exact .inl (if_pos above)
    · exact .inr ⟨_, _, if_neg above, by omega, Int.le_refl _, by omega⟩

theorem whole_order (positive : number ≠ 0) : binaryOrder number 1 = number.log2 := by
  have guess : (number.log2 : Int) - ((1 : Nat).log2 : Int) = Int.ofNat number.log2 := by
    rw [show (1 : Nat).log2 = 0 by decide]
    simp
  have below : ¬number < 1 * Nat.pow 2 number.log2 := by
    rw [Nat.one_mul, Nat.not_lt]
    exact Nat.log2_self_le positive
  rw [binaryOrder, guess]
  exact if_neg below

theorem of_ratio_whole (positive : number ≠ 0) : ofRatio negative number 1 =
    settled negative
      (roundHalfEven (overPowerOfTwo number 1 (number.log2 - 52)).1
        (overPowerOfTwo number 1 (number.log2 - 52)).2)
      (number.log2 - 52) := by
  have exponent : max (binaryOrder number 1 - 52) (-1074) = (number.log2 : Int) - 52 := by
    rw [whole_order positive]
    omega
  rw [ofRatio, if_neg positive, exponent]
  rfl

/-- A number that is shorter than a mantissa is shifted up to its length. -/
theorem of_ratio_short (positive : number ≠ 0) {shift : Nat} (short : number.log2 + (shift + 1) = 52) :
    ofRatio negative number 1 = .finite negative (number * 2 ^ (shift + 1)) (.negSucc shift) := by
  have exponent : (number.log2 : Int) - 52 = Int.negSucc shift := by omega
  have bound : number * 2 ^ (shift + 1) < mantissaLimit := by
    have limit : mantissaLimit = 2 ^ (number.log2 + 1) * 2 ^ (shift + 1) := by
      rw [← Nat.pow_add, show number.log2 + 1 + (shift + 1) = 53 by omega]
      rfl
    rw [limit]
    exact Nat.mul_lt_mul_of_pos_right Nat.lt_log2_self (Nat.two_pow_pos _)
  rw [of_ratio_whole positive, exponent]
  simp only [overPowerOfTwo, round_half_even_one]
  exact settled_short bound (by omega)

theorem of_ratio_long (positive : number ≠ 0) {shift : Nat} (long : number.log2 = 52 + shift) :
    ofRatio negative number 1 = settled negative (roundHalfEven number (2 ^ shift)) shift := by
  have exponent : (number.log2 : Int) - 52 = Int.ofNat shift := by
    rw [Int.ofNat_eq_natCast]
    omega
  rw [of_ratio_whole positive, exponent]
  simp only [overPowerOfTwo, Nat.one_mul]
  rfl

end Whole

/-! ## Whole numbers as text -/

section Written

variable {negative : Bool} {number mantissa : Nat}

theorem grouped_text_long (exponent : Nat) :
    (Binary64.finite negative mantissa exponent).toGroupedText =
      signed negative (grouped (mantissa * 2 ^ exponent)) := by
  have same : ratio mantissa exponent = (mantissa * 2 ^ exponent, 1) := rfl
  rw [toGroupedText, same]
  simp only [round_half_even_one]
  rfl

theorem grouped_text_zero (exponent : Int) :
    (Binary64.finite negative 0 exponent).toGroupedText = signed negative (grouped 0) := by
  cases exponent with
  | ofNat exponent =>
      rw [Int.ofNat_eq_natCast, grouped_text_long, Nat.zero_mul]
  | negSucc exponent =>
      have none := round_half_even_mul 0 (Nat.two_pow_pos (exponent + 1))
      rw [Nat.zero_mul] at none
      rw [toGroupedText, ratio]
      simp only [Nat.pow_eq, none]
      rfl

theorem grouped_text_short (positive : number ≠ 0) (short : number.log2 < 52) :
    (ofRatio negative number 1).toGroupedText = signed negative (grouped number) := by
  obtain ⟨shift, size⟩ := Nat.exists_eq_add_of_lt short
  rw [of_ratio_short positive (by omega : number.log2 + (shift + 1) = 52), toGroupedText, ratio]
  simp only [Nat.pow_eq, round_half_even_mul number (Nat.two_pow_pos _)]
  rfl

/-- A number that fits is a whole number of the units that its length leaves to a mantissa. -/
theorem units_of_fits {shift : Nat} (positive : number ≠ 0) (long : number.log2 = 52 + shift)
    (fits : Fits number) : shift ≤ 971 ∧ ∃ units, units < 2 ^ 53 ∧ number = units * 2 ^ shift := by
  obtain ⟨mantissa, exponent, same, small, bounded⟩ := fits
  have above : 2 ^ (52 + shift) ≤ number := long ▸ Nat.log2_self_le positive
  have below : number < 2 ^ (53 + shift) := by
    have length := @Nat.lt_log2_self number
    rwa [long, show 52 + shift + 1 = 53 + shift by omega] at length
  -- Fewer trailing zeros would leave more than fifty-three digits to the mantissa.
  have enough : shift ≤ exponent := by
    have product : number < 2 ^ (53 + exponent) := by
      rw [same, Nat.pow_add]
      exact Nat.mul_lt_mul_of_pos_right small (Nat.two_pow_pos _)
    have powers := (Nat.pow_lt_pow_iff_right (by decide)).mp (Nat.lt_of_le_of_lt above product)
    omega
  have split : number = mantissa * 2 ^ (exponent - shift) * 2 ^ shift := by
    rw [same, Nat.mul_assoc, ← Nat.pow_add, Nat.sub_add_cancel enough]
  refine ⟨Nat.le_trans enough bounded, _, ?_, split⟩
  rw [split, Nat.pow_add] at below
  exact Nat.lt_of_mul_lt_mul_right below

theorem grouped_text_of_fits (positive : number ≠ 0) (fits : Fits number) :
    (ofRatio negative number 1).toGroupedText = signed negative (grouped number) := by
  rcases Nat.lt_or_ge number.log2 52 with short | long
  · exact grouped_text_short positive short
  · obtain ⟨shift, size⟩ := Nat.exists_eq_add_of_le long
    obtain ⟨bounded, units, small, same⟩ := units_of_fits positive size fits
    have rounded : roundHalfEven number (2 ^ shift) = units := by
      rw [same]
      exact round_half_even_mul units (Nat.two_pow_pos shift)
    rw [of_ratio_long positive size, rounded, settled_short small (by omega), grouped_text_long, ← same]

theorem grouped_text_cases (positive : number ≠ 0) :
    (ofRatio negative number 1).toGroupedText = signed negative "inf" ∨ ∃ kept, Fits kept ∧
      (ofRatio negative number 1).toGroupedText = signed negative (grouped kept) := by
  rcases Nat.lt_or_ge number.log2 52 with short | long
  · have small : number < 2 ^ 53 := Nat.lt_trans ((Nat.log2_lt positive).mp short) (by decide)
    exact .inr ⟨number, ⟨number, 0, by simp, small, by decide⟩, grouped_text_short positive short⟩
  · obtain ⟨shift, size⟩ := Nat.exists_eq_add_of_le long
    -- Rounding up may carry to the limit itself, which `settled` halves.
    have bounded : roundHalfEven number (2 ^ shift) ≤ mantissaLimit := by
      have quotient : number / 2 ^ shift < 2 ^ 53 := by
        rw [Nat.div_lt_iff_lt_mul (Nat.two_pow_pos shift), ← Nat.pow_add]
        have length := @Nat.lt_log2_self number
        rwa [size, show 52 + shift + 1 = 53 + shift by omega] at length
      exact Nat.le_trans (round_half_even_le _ _) quotient
    rw [of_ratio_long positive size]
    rcases @settled_cases negative _ shift bounded with
      infinite | ⟨kept, power, finite, small, above, below⟩
    · rw [infinite]
      left
      cases negative <;> rfl
    · obtain ⟨exponent, rfl⟩ := Int.eq_ofNat_of_zero_le (Int.le_trans (Int.natCast_nonneg shift) above)
      rw [finite, grouped_text_long]
      exact .inr ⟨kept * 2 ^ exponent, ⟨kept, exponent, rfl, small, by omega⟩, rfl⟩

end Written

end RichText.Binary64
