import RichText.Number.Grouped
import RichText.Proofs.Text.Join
import RichText.Proofs.Text.Pieces
import RichText.Proofs.Text.Span

/-!
Numerals with commas. The commas stand in front of every third digit, counted from the right, and nowhere
else; without them the numeral is the plain one.
-/

namespace RichText

/-- Groups of three characters between commas; only the first of them may be shorter. -/
def InThousands (text : Text) : Prop :=
  ∃ first others, Text.pieces (· = ',') text = first :: others ∧ 0 < first.length ∧
    first.length ≤ 3 ∧ ∀ group ∈ others, group.length = 3

section Groups

variable {digits : Text}

/-- The groups of digits that are given last first. -/
theorem groups_of_reversed (present : digits ≠ []) : ∃ first others,
    digits.reverse = (first :: others).flatten ∧
      (groupReversed digits).reverse = Text.join [','] (first :: others) ∧
        0 < first.length ∧ first.length ≤ 3 ∧ ∀ group ∈ others, group.length = 3 := by
  fun_induction groupReversed digits with
  | case1 units tens hundreds next rest induction =>
      obtain ⟨first, others, whole, joined, some, few, full⟩ := induction (List.cons_ne_nil _ _)
      refine ⟨first, others ++ [[hundreds, tens, units]], ?_, ?_, some, few, ?_⟩
      · rw [← List.cons_append, List.flatten_append, ← whole]
        simp
      · rw [← List.cons_append, Text.join_append [','] (List.cons_ne_nil _ _) (List.cons_ne_nil _ _),
          ← joined]
        simp [Text.join]
      · rw [List.forall_mem_append]
        exact ⟨full, List.forall_mem_singleton.mpr rfl⟩
  | case2 digits short =>
      refine ⟨digits.reverse, [], by simp, by simp [Text.join], ?_, ?_, List.forall_mem_nil _⟩
      · simpa [List.length_pos_iff] using present
      · rcases digits with _ | ⟨units, _ | ⟨tens, _ | ⟨hundreds, _ | ⟨next, rest⟩⟩⟩⟩
        · exact Nat.zero_le 3
        · simp
        · simp
        · simp
        · exact absurd rfl (short units tens hundreds next rest)

end Groups

theorem filter_join {groups : List Text} (free : ∀ group ∈ groups, ',' ∉ group) :
    (Text.join [','] groups).filter (· ≠ ',') = groups.flatten := by
  have kept {group : Text} (free : ',' ∉ group) : group.filter (· ≠ ',') = group :=
    List.filter_eq_self.mpr (Text.apart_of_free free)
  induction groups with
  | nil => rfl
  | cons first groups induction =>
      obtain ⟨freeFirst, freeOthers⟩ := List.forall_mem_cons.mp free
      have others := induction freeOthers
      cases groups with
      | nil => rw [Text.join_cons, List.flatMap_nil, List.append_nil, kept freeFirst]; simp
      | cons second groups =>
          rw [Text.join_cons_cons, List.filter_append, List.filter_append, others, kept freeFirst]
          rfl

/-- The groups of a numeral, which hold no comma. -/
theorem groups_of_grouped (number : Nat) : ∃ first others,
    Text.ofNat number = (first :: others).flatten ∧
      grouped number = Text.join [','] (first :: others) ∧
        (∀ group ∈ first :: others, ',' ∉ group) ∧
          0 < first.length ∧ first.length ≤ 3 ∧ ∀ group ∈ others, group.length = 3 := by
  have present : (Text.ofNat number).reverse ≠ [] := by
    rw [Ne, List.reverse_eq_nil_iff]
    exact Nat.toDigits_ne_nil
  obtain ⟨first, others, whole, joined, sizes⟩ := groups_of_reversed present
  rw [List.reverse_reverse] at whole
  refine ⟨first, others, whole, joined, ?_, sizes⟩
  intro group inside member
  have digit : ',' ∈ Text.ofNat number := whole ▸ List.mem_flatten_of_mem inside member
  exact absurd (Nat.isDigit_of_mem_toDigits (by decide) (by decide) digit) (by decide)

theorem grouped_numeral (number : Nat) : (grouped number).filter (· ≠ ',') = Text.ofNat number := by
  obtain ⟨first, others, whole, joined, free, -⟩ := groups_of_grouped number
  rw [joined, filter_join free, whole]

theorem grouped_in_thousands (number : Nat) : InThousands (grouped number) := by
  obtain ⟨first, others, -, joined, free, sizes⟩ := groups_of_grouped number
  refine ⟨first, others, ?_, sizes⟩
  rw [joined, Text.pieces_eq]
  exact List.splitOn_intercalate ',' free (List.cons_ne_nil _ _)

end RichText
