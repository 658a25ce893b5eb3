import Mathlib.Data.List.TakeWhile
import RichText.Text.Blank

/-!
Runs of characters of one kind, and trimmed texts. A run that ends before a character of another kind
is taken off a text as a whole. A text that neither starts nor ends with a blank is its own trimmed
form, and a character that is not blank outlives trimming.
-/

namespace RichText.Text

section Runs

variable {keeps : Char → Bool} {body rest : Text} {stop : Char}

theorem take_run (inside : ∀ char ∈ body, keeps char = true) (ends : keeps stop = false) :
    (body ++ stop :: rest).takeWhile keeps = body := by
  rw [List.takeWhile_append_of_pos inside, List.takeWhile_cons_of_neg (by simp [ends]),
    List.append_nil]

theorem drop_run (inside : ∀ char ∈ body, keeps char = true) (ends : keeps stop = false) :
    (body ++ stop :: rest).dropWhile keeps = stop :: rest := by
  rw [List.dropWhile_append_of_pos inside, List.dropWhile_cons_of_neg (by simp [ends])]

theorem apart_of_free (free : stop ∉ body) : ∀ char ∈ body, decide (char ≠ stop) = true := by
  intro char member
  rw [decide_eq_true_eq]
  rintro rfl
  exact free member

theorem take_until (free : stop ∉ body) :
    (body ++ stop :: rest).takeWhile (fun char => decide (char ≠ stop)) = body :=
  take_run (apart_of_free free) (by simp)

theorem drop_until (free : stop ∉ body) :
    (body ++ stop :: rest).dropWhile (fun char => decide (char ≠ stop)) = stop :: rest :=
  drop_run (apart_of_free free) (by simp)

/-- Texts that are the same up to and with the first character of a kind are the same on both sides of
it. -/
theorem cut_at_first {other more : Text} (free : stop ∉ body) (otherFree : stop ∉ other)
    (same : body ++ stop :: rest = other ++ stop :: more) : body = other ∧ rest = more := by
  have taken := congrArg (List.takeWhile fun char => decide (char ≠ stop)) same
  rw [take_until free, take_until otherFree] at taken
  subst taken
  exact ⟨rfl, (List.cons.inj (List.append_cancel_left same)).2⟩

/-- What remains after a run starts with a character of another kind. -/
theorem rest_not_kept {text : Text} (remains : text.dropWhile keeps = stop :: rest) :
    keeps stop = false := by
  have nonempty : text.dropWhile keeps ≠ [] := by simp [remains]
  have notKept := List.head_dropWhile_not keeps nonempty
  simpa only [remains, List.head_cons] using notKept

/-- A character of another kind is not dropped with a run. -/
theorem mem_drop_run {text : Text} {char : Char} (member : char ∈ text) (other : keeps char = false) :
    char ∈ text.dropWhile keeps := by
  rw [← List.takeWhile_append_dropWhile (p := keeps) (l := text), List.mem_append] at member
  rcases member with dropped | kept
  · have keeps := List.mem_takeWhile_imp dropped
    rw [other] at keeps
    exact absurd keeps (by decide)
  · exact kept

/-- Nor is it dropped from either end. -/
theorem mem_drop_ends {text : Text} {char : Char} (member : char ∈ text) (other : keeps char = false) :
    char ∈ dropEndWhile keeps (text.dropWhile keeps) := by
  rw [dropEndWhile, List.mem_reverse]
  exact mem_drop_run (List.mem_reverse.mpr (mem_drop_run member other)) other

/-- Two ways of telling characters apart that agree on a text drop the same of it. -/
theorem drop_run_same {others : Char → Bool} {text : Text}
    (same : ∀ char ∈ text, keeps char = others char) : text.dropWhile keeps = text.dropWhile others := by
  induction text with
  | nil => rfl
  | cons char text induction =>
      rw [List.dropWhile_cons, List.dropWhile_cons, same char List.mem_cons_self,
        induction fun char member => same char (List.mem_cons_of_mem _ member)]

theorem drop_ends_same {others : Char → Bool} {text : Text}
    (same : ∀ char ∈ text, keeps char = others char) :
    dropEndWhile keeps (text.dropWhile keeps) = dropEndWhile others (text.dropWhile others) := by
  rw [drop_run_same same, dropEndWhile, dropEndWhile, drop_run_same]
  intro char member
  exact same char ((List.dropWhile_sublist others).mem (List.mem_reverse.mp member))

/-- What is dropped from the ends of a text is of the kind that is dropped. -/
theorem exists_dropped_ends (keeps : Char → Bool) (text : Text) : ∃ before after,
    text = before ++ dropEndWhile keeps (text.dropWhile keeps) ++ after ∧
      (∀ char ∈ before, keeps char = true) ∧ ∀ char ∈ after, keeps char = true := by
  have front := List.takeWhile_append_dropWhile (p := keeps) (l := text)
  have back := List.takeWhile_append_dropWhile (p := keeps) (l := (text.dropWhile keeps).reverse)
  have parts := congrArg List.reverse back
  rw [List.reverse_append, List.reverse_reverse] at parts
  refine ⟨text.takeWhile keeps, ((text.dropWhile keeps).reverse.takeWhile keeps).reverse, ?_, ?_, ?_⟩
  · rw [List.append_assoc, dropEndWhile, parts, front]
  · exact fun char => List.mem_takeWhile_imp
  · exact fun char member => List.mem_takeWhile_imp (List.mem_reverse.mp member)

/-- Characters of a kind around a text that neither starts nor ends with one are dropped, and no more. -/
theorem drop_ends_padded {before after : Text} (opens : ∀ char ∈ before, keeps char = true)
    (closes : ∀ char ∈ after, keeps char = true)
    (head : ∀ char, body.head? = some char → keeps char = false)
    (last : ∀ char, body.getLast? = some char → keeps char = false) :
    dropEndWhile keeps ((before ++ body ++ after).dropWhile keeps) = body := by
  rw [List.append_assoc, List.dropWhile_append_of_pos opens]
  rcases List.eq_nil_or_concat body with rfl | ⟨front, ending, rfl⟩
  · rw [List.nil_append, List.dropWhile_eq_nil_iff.mpr closes]
    rfl
  · have ends : keeps ending = false := last ending (by simp)
    have reversed : ∀ char ∈ after.reverse, keeps char = true := by simpa using closes
    have started : (front.concat ending ++ after).dropWhile keeps = front.concat ending ++ after := by
      cases front with
      | nil => exact List.dropWhile_cons_of_neg (by simp [ends])
      | cons first front => exact List.dropWhile_cons_of_neg (by simp [head first rfl])
    rw [started, dropEndWhile, List.reverse_append, List.dropWhile_append_of_pos reversed,
      List.concat_eq_append, List.reverse_append, List.reverse_singleton, List.singleton_append,
      List.dropWhile_cons_of_neg (by simp [ends])]
    simp

end Runs

/-- The characters between the space and the first control beyond ASCII are visible. -/
theorem visible_of_code {char : Char} (above : 33 ≤ char.toNat) (below : char.toNat < 133) :
    isBlank char = false := by
  simp only [isBlank, inRanges, blankRanges, codeInRanges]
  simp only [show ¬char.toNat < 9 by omega, show ¬char.toNat ≤ 13 by omega,
    show ¬char.toNat < 28 by omega, show ¬char.toNat ≤ 32 by omega,
    show char.toNat < 133 by omega, if_true, if_false]

section Trimmed

variable {text : Text}

theorem trim_start_of_head
    (head : ∀ char, text.head? = some char → isBlank char = false) : trimStart text = text := by
  cases text with
  | nil => rfl
  | cons char rest => simp [trimStart, head char rfl]

theorem trim_end_of_last
    (last : ∀ char, text.getLast? = some char → isBlank char = false) : trimEnd text = text := by
  have reversed := @trim_start_of_head text.reverse (by simpa using last)
  rw [trimStart] at reversed
  rw [trimEnd, dropEndWhile, reversed, List.reverse_reverse]

theorem trim_of_ends
    (head : ∀ char, text.head? = some char → isBlank char = false)
    (last : ∀ char, text.getLast? = some char → isBlank char = false) : trim text = text := by
  rw [trim, trim_start_of_head head, trim_end_of_last last]

theorem trim_of_no_blank (noBlank : ∀ char ∈ text, isBlank char = false) : trim text = text := by
  apply trim_of_ends
  · intro char head
    exact noBlank char (List.mem_of_mem_head? head)
  · intro char last
    exact noBlank char (List.mem_of_getLast? last)

theorem trim_front (text : Text) : trim text <+: trimStart text := by
  have suffix := List.dropWhile_suffix (l := (trimStart text).reverse) isBlank
  rwa [← List.reverse_prefix, List.reverse_reverse] at suffix

theorem trim_infix (text : Text) : trim text <:+: text :=
  (trim_front text).isInfix.trans (List.dropWhile_suffix isBlank).isInfix

/-- A trimmed text starts with a visible character, -/
theorem trim_head {char : Char} (head : (trim text).head? = some char) : isBlank char = false := by
  obtain ⟨rest, whole⟩ := trim_front text
  cases trimmed : trim text with
  | nil => exact absurd (trimmed ▸ head) nofun
  | cons first more =>
      rw [trimmed] at head whole
      obtain rfl := Option.some.inj head
      exact rest_not_kept whole.symm

/-- and it ends with one. -/
theorem trim_last {char : Char} (last : (trim text).getLast? = some char) : isBlank char = false := by
  rw [trim, trimEnd, dropEndWhile, List.getLast?_reverse] at last
  cases dropped : (trimStart text).reverse.dropWhile isBlank with
  | nil => exact absurd (dropped ▸ last) nofun
  | cons first more =>
      rw [dropped] at last
      obtain rfl := Option.some.inj last
      exact rest_not_kept dropped

theorem trim_trim (text : Text) : trim (trim text) = trim text :=
  trim_of_ends (fun _ head => trim_head head) fun _ last => trim_last last

theorem mem_trim {char : Char} (member : char ∈ text) (visible : isBlank char = false) :
    char ∈ trim text := mem_drop_ends member visible

theorem trim_blank_iff : trim text = [] ↔ ∀ char ∈ text, isBlank char = true := by
  constructor
  · intro none char member
    by_contra visible
    exact absurd (none ▸ mem_trim member (by simpa using visible)) List.not_mem_nil
  · intro blank
    have started : trimStart text = [] := List.dropWhile_eq_nil_iff.mpr blank
    rw [trim, started]
    rfl

/-- Blanks around a trimmed text are trimmed off again. -/
theorem trim_padded {before after : Text} (blankBefore : ∀ char ∈ before, isBlank char = true)
    (blankAfter : ∀ char ∈ after, isBlank char = true) (trimmed : trim text = text) :
    trim (before ++ text ++ after) = text := by
  apply drop_ends_padded blankBefore blankAfter
  · intro char head
    exact trim_head (trimmed.symm ▸ head)
  · intro char last
    exact trim_last (trimmed.symm ▸ last)

end Trimmed

end RichText.Text
