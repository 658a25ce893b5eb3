import Mathlib.Data.List.Basic
import RichText.Proofs.Text.Span
import RichText.Text.Case

/-!
Small letters. A character that lowering leads to is changed by no further lowering, and a visible
character does not become a blank. So the trimmed and lowered form of a text is its own trimmed and
lowered form.
-/

namespace RichText.Text

/-! ## The table of small letters -/

/-- Every code point that a run leads to is left as it is by other runs. These are passed as in a
lookup: they end before the targets, start behind them, or hold the code points between them. -/
def leadsOut (first last step target : Nat) : List (Nat × Nat × Nat × Nat) → Bool
  | [] => true
  | (otherFirst, otherLast, otherStep, _) :: runs =>
      Nat.blt (target + (last - first)) otherFirst ||
        (Nat.blt otherLast target ||
          Nat.beq otherStep 2 && (Nat.beq step 2 || Nat.beq first last) &&
            Nat.beq ((target + otherFirst) % 2) 1) &&
        leadsOut first last step target runs

/-- An interval of code points and runs of code points that have none in common. -/
def isApart (first last : Nat) : List (Nat × Nat) → Bool
  | [] => true
  | (rangeFirst, rangeLast) :: ranges =>
      (Nat.blt last rangeFirst || Nat.blt rangeLast first) && isApart first last ranges

/-- The code points that are no characters, and the dotted capital i. -/
def notSmall : List (Nat × Nat) := [(304, 304), (0xD800, 0xDFFF)]

/-- A run of visible letters that leads to visible letters for good. -/
def settles : Nat × Nat × Nat × Nat → Bool
  | (first, last, step, target) =>
      leadsOut first last step target smallRuns && isApart first last blankRanges &&
        isApart target (target + (last - first)) blankRanges &&
        isApart target (target + (last - first)) notSmall &&
        Nat.ble (target + (last - first)) 0x10FFFF

theorem small_runs_settle : smallRuns.all settles = true := by decide +kernel

section Runs

variable {runs : List (Nat × Nat × Nat × Nat)} {first last step target code : Nat}

theorem map_runs_cases (runs : List (Nat × Nat × Nat × Nat)) (code : Nat) :
    mapRuns runs code = code ∨ ∃ first last step target, (first, last, step, target) ∈ runs ∧
      (first ≤ code ∧ code ≤ last) ∧ (code - first) % step = 0 ∧
        mapRuns runs code = code - first + target := by
  induction runs with
  | nil => exact .inl rfl
  | cons run runs induction =>
      obtain ⟨first, last, step, target⟩ := run
      rw [mapRuns]
      split_ifs with before inside divides
      · exact .inl rfl
      · exact .inr ⟨first, last, step, target, List.mem_cons_self, ⟨by omega, inside⟩, divides, rfl⟩
      · exact .inl rfl
      · rcases induction with same | ⟨first, last, step, target, member, found⟩
        · exact .inl same
        · exact .inr ⟨first, last, step, target, List.mem_cons_of_mem _ member, found⟩

theorem map_runs_settled (out : leadsOut first last step target runs = true)
    (inside : first ≤ code ∧ code ≤ last) (divides : (code - first) % step = 0) :
    mapRuns runs (code - first + target) = code - first + target := by
  induction runs with
  | nil => rfl
  | cons run runs induction =>
      obtain ⟨otherFirst, otherLast, otherStep, otherTarget⟩ := run
      simp only [leadsOut, Bool.or_eq_true, Bool.and_eq_true, Nat.blt_eq, Nat.beq_eq] at out
      rw [mapRuns]
      split_ifs with before within hits
      · rfl
      · -- The target lies inside of the run, so it must lie between its code points.
        exfalso
        rcases out with behind | ⟨ends | ⟨⟨two, spaced⟩, odd⟩, -⟩
        · omega
        · omega
        · subst two
          have even : (code - first) % 2 = 0 := by
            rcases spaced with rfl | rfl
            · exact divides
            · have same : code - first = 0 := by omega
              rw [same]
          omega
      · rfl
      · rcases out with behind | ⟨-, out⟩
        · omega
        · exact induction out

theorem code_apart {ranges : List (Nat × Nat)} (apart : isApart first last ranges = true)
    (inside : first ≤ code ∧ code ≤ last) : codeInRanges ranges code = false := by
  induction ranges with
  | nil => rfl
  | cons range ranges induction =>
      obtain ⟨rangeFirst, rangeLast⟩ := range
      simp only [isApart, Bool.and_eq_true, Bool.or_eq_true, Nat.blt_eq] at apart
      rw [codeInRanges]
      split_ifs with before within
      · rfl
      · omega
      · exact induction apart.2

end Runs

/-! ## Single letters -/

/-- A character that lowering leaves as it is, wherever it stands. -/
def Settled (char : Char) : Prop := smallLetter char = char ∧ char ≠ 'Σ' ∧ char ≠ 'İ'

/-- A letter with a small form stands in a run, and the small form as far from the target of the run as
the letter from its start. -/
theorem small_letter_run (char : Char) :
    smallLetter char = char ∨ ∃ first last step target, (first, last, step, target) ∈ smallRuns ∧
      (first ≤ char.toNat ∧ char.toNat ≤ last) ∧ (char.toNat - first) % step = 0 ∧
        (smallLetter char).toNat = char.toNat - first + target := by
  rcases map_runs_cases smallRuns char.toNat with
    same | ⟨first, last, step, target, member, inside, divides, found⟩
  · left
    rw [smallLetter, same, Char.ofNat_toNat]
  · refine .inr ⟨first, last, step, target, member, inside, divides, ?_⟩
    have settled := List.all_eq_true.mp small_runs_settle _ member
    simp only [settles, notSmall, Bool.and_eq_true, Nat.ble_eq] at settled
    obtain ⟨⟨-, apart⟩, bound⟩ := settled
    have outside := code_apart apart
      (show target ≤ char.toNat - first + target ∧
        char.toNat - first + target ≤ target + (last - first) by omega)
    have valid : (char.toNat - first + target).isValidChar := by
      simp only [codeInRanges] at outside
      unfold Nat.isValidChar
      split_ifs at outside
      all_goals omega
    rw [smallLetter, found, Char.ofNat, dif_pos valid]
    rfl

theorem small_letter_cases (char : Char) :
    smallLetter char = char ∨ Settled (smallLetter char) ∧ isBlank char = false ∧
      isBlank (smallLetter char) = false := by
  rcases small_letter_run char with
    same | ⟨first, last, step, target, member, inside, divides, small⟩
  · exact .inl same
  · right
    have settled := List.all_eq_true.mp small_runs_settle _ member
    simp only [settles, notSmall, Bool.and_eq_true, Nat.ble_eq] at settled
    obtain ⟨⟨⟨⟨out, visible⟩, visibleAfter⟩, apart⟩, -⟩ := settled
    have image : target ≤ char.toNat - first + target ∧
        char.toNat - first + target ≤ target + (last - first) := by omega
    have again : smallLetter (smallLetter char) = smallLetter char := by
      rw [smallLetter, small, map_runs_settled out inside divides, ← small, Char.ofNat_toNat]
    refine ⟨⟨again, ?_, ?_⟩, code_apart visible inside, ?_⟩
    · intro isSigma
      rw [isSigma] at again
      exact absurd again (by decide +kernel)
    · intro isDotted
      have outside := code_apart apart image
      rw [← small, isDotted] at outside
      exact absurd outside (by decide)
    · rw [isBlank, inRanges, small]
      exact code_apart visibleAfter image

theorem small_letter_settled {char : Char} (notSigma : char ≠ 'Σ') (notDotted : char ≠ 'İ') :
    Settled (smallLetter char) := by
  rcases small_letter_cases char with same | ⟨settled, -, -⟩
  · rw [same]
    exact ⟨same, notSigma, notDotted⟩
  · exact settled

section Lowered

variable {afterCased : Bool} {char : Char} {rest text : Text}

theorem lower_char_settled : ∀ small ∈ lowerChar afterCased char rest, Settled small := by
  have sigma : Settled 'σ' ∧ Settled 'ς' ∧ Settled 'i' ∧ Settled '\u0307' := by
    unfold Settled
    decide +kernel
  obtain ⟨middle, final, plain, dot⟩ := sigma
  unfold lowerChar
  split_ifs with isSigma ends isDotted
  · exact List.forall_mem_singleton.mpr final
  · exact List.forall_mem_singleton.mpr middle
  · exact List.forall_mem_cons.mpr ⟨plain, List.forall_mem_singleton.mpr dot⟩
  · exact List.forall_mem_singleton.mpr (small_letter_settled isSigma isDotted)

theorem lower_char_visible (visible : isBlank char = false) :
    ∀ small ∈ lowerChar afterCased char rest, isBlank small = false := by
  have given : isBlank 'σ' = false ∧ isBlank 'ς' = false ∧ isBlank 'i' = false ∧
      isBlank '\u0307' = false := by decide +kernel
  obtain ⟨middle, final, plain, dot⟩ := given
  unfold lowerChar
  split_ifs with isSigma ends isDotted
  · exact List.forall_mem_singleton.mpr final
  · exact List.forall_mem_singleton.mpr middle
  · exact List.forall_mem_cons.mpr ⟨plain, List.forall_mem_singleton.mpr dot⟩
  · intro small member
    obtain rfl := List.mem_singleton.mp member
    rcases small_letter_cases char with same | ⟨-, -, visibleAfter⟩
    · rwa [same]
    · exact visibleAfter

theorem lower_char_present : lowerChar afterCased char rest ≠ [] := by
  unfold lowerChar
  split_ifs
  all_goals exact List.cons_ne_nil _ _

/-! ## Texts -/

theorem lower_from_settled : ∀ small ∈ lowerFrom afterCased text, Settled small := by
  induction text generalizing afterCased with
  | nil => exact List.forall_mem_nil _
  | cons char rest induction =>
      intro small member
      rw [lowerFrom] at member
      rcases List.mem_append.mp member with first | later
      · exact lower_char_settled small first
      · exact induction small later

theorem lower_of_settled (settled : ∀ char ∈ text, Settled char) : lowerFrom afterCased text = text := by
  induction text generalizing afterCased with
  | nil => rfl
  | cons char rest induction =>
      obtain ⟨⟨same, notSigma, notDotted⟩, others⟩ := List.forall_mem_cons.mp settled
      rw [lowerFrom, lowerChar, if_neg notSigma, if_neg notDotted, same, induction others]
      rfl

theorem lower_lower (text : Text) : lower (lower text) = lower text :=
  lower_of_settled lower_from_settled

theorem lower_from_last (front : Text) : ∃ before after,
    lowerFrom afterCased (front ++ [char]) = before ++ lowerChar after char [] := by
  induction front generalizing afterCased with
  | nil =>
      refine ⟨[], afterCased, ?_⟩
      rw [List.nil_append, lowerFrom, lowerFrom, List.append_nil]
      rfl
  | cons first front induction =>
      obtain ⟨before, after, same⟩ := @induction (afterCasedNext afterCased first)
      refine ⟨lowerChar afterCased first (front ++ [char]) ++ before, after, ?_⟩
      rw [List.cons_append, lowerFrom, same, List.append_assoc]

theorem trim_lower_trim (text : Text) : trim (lower (trim text)) = lower (trim text) := by
  have head := @trim_head text
  have last := @trim_last text
  generalize trim text = trimmed at head last
  apply trim_of_ends
  · intro small first
    cases trimmed with
    | nil => exact absurd first nofun
    | cons char rest =>
        rw [lower, lowerFrom, List.head?_append_of_ne_nil _ lower_char_present] at first
        exact lower_char_visible (head rfl) small (List.mem_of_mem_head? first)
  · intro small ends
    rcases List.eq_nil_or_concat trimmed with rfl | ⟨front, char, rfl⟩
    · exact absurd ends nofun
    · obtain ⟨before, after, same⟩ := @lower_from_last false char front
      rw [lower, List.concat_eq_append, same, List.getLast?_append_of_ne_nil _ lower_char_present]
        at ends
      have visible : isBlank char = false := last (by simp)
      exact lower_char_visible visible small (List.mem_of_getLast? ends)

end Lowered

end RichText.Text
