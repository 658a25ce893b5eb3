import Mathlib.Data.List.Basic
import RichText.Text.Case
import RichText.Text.Numeral

/-!
Letters and digits of ASCII: their code points, and the small letters of a text that has no others.
-/

namespace RichText.Text

section Codes

variable {char : Char}

theorem apart_of_code {other : Char} (differs : char.toNat ≠ other.toNat) : char ≠ other := by
  rintro rfl
  exact differs rfl

theorem ascii_letter_code (letter : isAsciiLetter char = true) :
    65 ≤ char.toNat ∧ char.toNat ≤ 90 ∨ 97 ≤ char.toNat ∧ char.toNat ≤ 122 := by
  simp only [isAsciiLetter, Bool.or_eq_true, Bool.and_eq_true, decide_eq_true_eq, Char.le_def,
    UInt32.le_iff_toNat_le] at letter
  exact letter.symm

theorem ascii_digit_code (digit : isAsciiDigit char = true) :
    48 ≤ char.toNat ∧ char.toNat ≤ 57 := by
  simp only [isAsciiDigit, Bool.and_eq_true, decide_eq_true_eq, Char.le_def,
    UInt32.le_iff_toNat_le] at digit
  exact digit

theorem ascii_letter_of_lower (letter : isAsciiLetter char.toLower = true) :
    isAsciiLetter char = true := by
  by_cases capital : 'A' ≤ char ∧ char ≤ 'Z'
  · simp [isAsciiLetter, capital.1, capital.2]
  · have same : char.toLower = char := dif_neg capital
    rwa [same] at letter

end Codes

theorem small_letter_ascii {char : Char} (ascii : char.toNat < 128) :
    smallLetter char = char.toLower := by
  have table : ∀ code : Fin 128, smallLetter (Char.ofNat code) = (Char.ofNat code).toLower := by
    decide +kernel
  have small := table ⟨char.toNat, ascii⟩
  rwa [Char.ofNat_toNat] at small

theorem lower_from_ascii {afterCased : Bool} {text : Text} (ascii : ∀ char ∈ text, char.toNat < 128) :
    lowerFrom afterCased text = text.map Char.toLower := by
  induction text generalizing afterCased with
  | nil => rfl
  | cons char rest induction =>
      obtain ⟨first, others⟩ := List.forall_mem_cons.mp ascii
      have notSigma : char ≠ 'Σ' := by
        rintro rfl
        exact absurd first (by decide)
      have notDotted : char ≠ 'İ' := by
        rintro rfl
        exact absurd first (by decide)
      rw [lowerFrom, lowerChar, if_neg notSigma, if_neg notDotted, small_letter_ascii first,
        induction others]
      rfl

theorem lower_ascii {text : Text} (ascii : ∀ char ∈ text, char.toNat < 128) :
    lower text = text.map Char.toLower := lower_from_ascii ascii

end RichText.Text
