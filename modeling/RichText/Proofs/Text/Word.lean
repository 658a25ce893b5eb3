import RichText.Proofs.Text.Case
import RichText.Text.Word

/-!
Words in small letters. The small form of a word character is a word character, with one exception: the
dotted capital i becomes an i and a combining dot, and the dot belongs to no word.
-/

namespace RichText.Text

/-! ## The table of small letters against the table of word characters -/

/-- An interval of code points that one of the runs holds as a whole. -/
def isInside (first last : Nat) : List (Nat × Nat) → Bool
  | [] => false
  | (rangeFirst, rangeLast) :: ranges =>
      Nat.ble rangeFirst first &&
        (Nat.ble last rangeLast || Nat.blt rangeLast first && isInside first last ranges)

/-- A run that leads to word characters, or that no word character starts from. -/
def keepsWord : Nat × Nat × Nat × Nat → Bool
  | (first, last, _, target) =>
      isInside target (target + (last - first)) wordRanges || isApart first last wordRanges

theorem small_runs_keep_words : smallRuns.all keepsWord = true := by decide +kernel

theorem code_inside {first last code : Nat} {ranges : List (Nat × Nat)}
    (held : isInside first last ranges = true) (inside : first ≤ code ∧ code ≤ last) :
    codeInRanges ranges code = true := by
  induction ranges with
  | nil => exact absurd held nofun
  | cons range ranges induction =>
      obtain ⟨rangeFirst, rangeLast⟩ := range
      simp only [isInside, Bool.and_eq_true, Bool.or_eq_true, Nat.ble_eq, Nat.blt_eq] at held
      rw [codeInRanges]
      split_ifs with before within
      · omega
      · rfl
      · rcases held with ⟨-, ends | ⟨-, further⟩⟩
        · omega
        · exact induction further

theorem word_small_letter {char : Char} (word : isWord char = true) :
    isWord (smallLetter char) = true := by
  rcases small_letter_run char with
    same | ⟨first, last, step, target, member, inside, -, small⟩
  · rwa [same]
  · have kept := List.all_eq_true.mp small_runs_keep_words _ member
    rw [keepsWord, Bool.or_eq_true] at kept
    rcases kept with held | apart
    · rw [isWord, inRanges, small]
      exact code_inside held (by omega)
    · rw [isWord, inRanges, code_apart apart inside] at word
      exact absurd word Bool.false_ne_true

theorem lower_char_word {char : Char} {afterCased : Bool} {rest : Text} (word : isWord char = true) :
    ∀ small ∈ lowerChar afterCased char rest,
      isWord small = true ∨ char = 'İ' ∧ small = '\u0307' := by
  have given : isWord 'σ' = true ∧ isWord 'ς' = true ∧ isWord 'i' = true := by decide +kernel
  obtain ⟨middle, final, plain⟩ := given
  unfold lowerChar
  split_ifs with isSigma ends isDotted
  · exact List.forall_mem_singleton.mpr (.inl final)
  · exact List.forall_mem_singleton.mpr (.inl middle)
  · exact List.forall_mem_cons.mpr
      ⟨.inl plain, List.forall_mem_singleton.mpr (.inr ⟨isDotted, rfl⟩)⟩
  · exact List.forall_mem_singleton.mpr (.inl (word_small_letter word))

/-- The dot of a dotted capital i stays behind in the small letters of a text. -/
theorem dot_mem_lower_from {text : Text} {afterCased : Bool} (dotted : 'İ' ∈ text) :
    '\u0307' ∈ lowerFrom afterCased text := by
  induction text generalizing afterCased with
  | nil => exact absurd dotted nofun
  | cons char rest induction =>
      rw [lowerFrom, List.mem_append]
      rcases List.mem_cons.mp dotted with rfl | later
      · left
        rw [lowerChar, if_neg (by decide), if_pos rfl]
        exact List.mem_cons_of_mem _ List.mem_cons_self
      · exact .inr (induction later)

end RichText.Text
