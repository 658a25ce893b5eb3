import RichText.Number.Binary64
import RichText.Proofs.Text.Span

/-!
Numerals between blanks. The blanks that a cell is trimmed of are more than those that may stand around a
number: the information separators keep a cell from being read, although it looks like a number.
-/

namespace RichText

namespace Binary64

open Text (isBlank isDecimal trim)

/-- One of the four information separators. -/
def isSeparator (char : Char) : Bool := '\x1c' ≤ char && char ≤ '\x1f'

theorem separator_cases {char : Char} (separator : isSeparator char = true) :
    char = '\x1c' ∨ char = '\x1d' ∨ char = '\x1e' ∨ char = '\x1f' := by
  simp only [isSeparator, Bool.and_eq_true, decide_eq_true_eq, Char.le_def, UInt32.le_iff_toNat_le]
    at separator
  have bounds : 28 ≤ char.toNat ∧ char.toNat ≤ 31 := separator
  have known (code : Char) (same : char.toNat = code.toNat) : char = code := Char.toNat_inj.mp same
  have codes : char.toNat = 28 ∨ char.toNat = 29 ∨ char.toNat = 30 ∨ char.toNat = 31 := by omega
  rcases codes with code | code | code | code
  · exact .inl (known '\x1c' code)
  · exact .inr (.inl (known '\x1d' code))
  · exact .inr (.inr (.inl (known '\x1e' code)))
  · exact .inr (.inr (.inr (known '\x1f' code)))

section Separator

variable {char : Char} (separator : isSeparator char = true)

include separator

theorem separator_not_decimal : isDecimal char = false := by
  rcases separator_cases separator with rfl | rfl | rfl | rfl
  all_goals decide

theorem separator_not_mark : char ≠ '-' ∧ char ≠ '+' ∧ char ≠ '.' ∧ char ≠ 'e' ∧ char ≠ 'E' := by
  rcases separator_cases separator with rfl | rfl | rfl | rfl
  all_goals decide

theorem separator_blank : isBlank char = true ∧ isNumberBlank char = false := by
  rcases separator_cases separator with rfl | rfl | rfl | rfl
  all_goals decide

theorem mem_read_sign {text : Text} (member : char ∈ text) : char ∈ (readSign text).2 := by
  obtain ⟨minus, plus, -⟩ := separator_not_mark separator
  unfold readSign
  split
  · simpa [minus] using member
  · simpa [plus] using member
  · exact member

theorem read_exponent_separated {text : Text} (member : char ∈ text) : readExponent text = none := by
  unfold readExponent
  split
  · exact absurd member List.not_mem_nil
  · rename_i mark rest
    split
    · rename_i exponent
      have other : char ≠ mark := by
        obtain ⟨-, -, -, small, capital⟩ := separator_not_mark separator
        rw [Bool.or_eq_true, decide_eq_true_eq, decide_eq_true_eq] at exponent
        rcases exponent with rfl | rfl
        · exact small
        · exact capital
      have inside := mem_read_sign separator ((List.mem_cons.mp member).resolve_left other)
      have notAll : (readSign rest).2.all isDecimal = false := by
        apply Bool.eq_false_iff.mpr
        intro all
        have decimal := List.all_eq_true.mp all char inside
        rw [separator_not_decimal separator] at decimal
        exact absurd decimal (by decide)
      simp [notAll]
    · rfl

/-- A numeral holds no separator. -/
theorem read_numeral_separated {text : Text} (member : char ∈ text) : readNumeral? text = none := by
  obtain ⟨-, -, point, -, -⟩ := separator_not_mark separator
  have notDecimal := separator_not_decimal separator
  have remains := Text.mem_drop_run (mem_read_sign separator member) notDecimal
  unfold readNumeral?
  simp only
  generalize (readSign text).2.dropWhile isDecimal = rest at remains ⊢
  -- The separator is neither the point nor a digit of the fraction, so the exponent still holds it.
  have inExponent (fraction rest : Text) (inside : char ∈ rest) :
      (if ((readSign text).2.takeWhile isDecimal).isEmpty && fraction.isEmpty then none
        else (readExponent rest).map fun exponent =>
          ofDecimal (readSign text).1
            (digitsValue ((readSign text).2.takeWhile isDecimal ++ fraction))
            (exponent - fraction.length)) = none := by
    rw [read_exponent_separated separator inside, Option.map_none, ite_self]
  split
  · exact inExponent _ _
      (Text.mem_drop_run ((List.mem_cons.mp remains).resolve_left point) notDecimal)
  · exact inExponent _ _ remains

end Separator

theorem number_blank_of_not_separator {char : Char} (other : isSeparator char = false) :
    isNumberBlank char = isBlank char := by
  unfold isSeparator at other
  rw [isNumberBlank, other, Bool.not_false, Bool.and_true]

theorem trim_number_of_no_separator {text : Text} (clean : ∀ char ∈ text, isSeparator char = false) :
    trimNumber text = trim text :=
  Text.drop_ends_same fun char member => number_blank_of_not_separator (clean char member)

/-- A cell that looks like a number cannot be read as one exactly if it holds a separator. -/
theorem read_none_iff {cell : Text} (numeral : (readNumeral? (trim cell)).isSome = true) :
    read? cell = none ↔ ∃ char ∈ cell, isSeparator char = true := by
  constructor
  · intro unreadable
    by_contra absent
    have clean : ∀ char ∈ cell, isSeparator char = false := by
      intro char member
      exact Bool.eq_false_iff.mpr fun separator => absent ⟨char, member, separator⟩
    rw [read?, trim_number_of_no_separator clean] at unreadable
    rw [unreadable] at numeral
    exact absurd numeral (by decide)
  · rintro ⟨char, member, separator⟩
    exact read_numeral_separated separator
      (Text.mem_drop_ends member (separator_blank separator).2)

end Binary64

end RichText
