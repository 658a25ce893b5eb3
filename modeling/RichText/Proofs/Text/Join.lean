import RichText.Text.Basic

/-!
Texts joined by a separator: the first of them and what follows it, two series one after the other, and
the characters of the whole.
-/

namespace RichText.Text

theorem join_cons (separator first : Text) (others : List Text) :
    join separator (first :: others) = first ++ others.flatMap (separator ++ ·) := by
  induction others generalizing first with
  | nil => simp [join]
  | cons second others induction =>
      rw [join, List.intercalate_cons_cons, ← join, induction]
      simp

theorem join_cons_cons (separator first second : Text) (others : List Text) :
    join separator (first :: second :: others) =
      first ++ (separator ++ join separator (second :: others)) := by
  rw [join_cons, join_cons, List.flatMap_cons, List.append_assoc]

theorem join_append (separator : Text) {first second : List Text} (firstPresent : first ≠ [])
    (secondPresent : second ≠ []) :
    join separator (first ++ second) = join separator first ++ separator ++ join separator second := by
  obtain ⟨start, first, rfl⟩ := List.exists_cons_of_ne_nil firstPresent
  obtain ⟨next, second, rfl⟩ := List.exists_cons_of_ne_nil secondPresent
  rw [List.cons_append, join_cons, join_cons, join_cons, List.flatMap_append, List.flatMap_cons]
  simp only [List.append_assoc]

theorem mem_join {separator : Text} {parts : List Text} {char : Char}
    (member : char ∈ join separator parts) :
    char ∈ separator ∨ ∃ part ∈ parts, char ∈ part := by
  cases parts with
  | nil => exact absurd member List.not_mem_nil
  | cons first parts =>
      rw [join_cons, List.mem_append, List.mem_flatMap] at member
      rcases member with inFirst | ⟨part, inside, later⟩
      · exact .inr ⟨first, List.mem_cons_self, inFirst⟩
      · rcases List.mem_append.mp later with inSeparator | inPart
        · exact .inl inSeparator
        · exact .inr ⟨part, List.mem_cons_of_mem _ inside, inPart⟩

theorem mem_join_of_mem {separator : Text} {parts : List Text} {part : Text} {char : Char}
    (inside : part ∈ parts) (member : char ∈ part) : char ∈ join separator parts := by
  cases parts with
  | nil => exact absurd inside List.not_mem_nil
  | cons first parts =>
      rw [join_cons, List.mem_append, List.mem_flatMap]
      rcases List.mem_cons.mp inside with rfl | later
      · exact .inl member
      · exact .inr ⟨part, later, List.mem_append_right _ member⟩

/-- Nothing is left out: a joined text is empty only if all its parts are. -/
theorem part_empty_of_join {separator : Text} {parts : List Text} (empty : join separator parts = []) :
    ∀ part ∈ parts, part = [] := by
  intro part inside
  rw [List.eq_nil_iff_forall_not_mem]
  intro char member
  exact absurd (empty ▸ mem_join_of_mem inside member) List.not_mem_nil

end RichText.Text
