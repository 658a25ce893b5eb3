import RichText.Proofs.Marker.Grammar
import RichText.Proofs.Text.Legible

/-!
Which markers can be read. Tags, names and blanks hold no ampersand, and no reference goes over a quote,
so it is the values of a marker that settle whether its text is legible.
-/

namespace RichText.Marker

variable {kind : Kind} {written : List (Text × Text)} {raw : Text}

theorem ampersand_not_mem_blanks {blanks : Text}
    (blank : ∀ char ∈ blanks, Text.isBlank char = true) : '&' ∉ blanks := by
  intro member
  exact absurd (blank '&' member) (by decide)

theorem ampersand_not_mem_name {name : Text} (named : isName name = true) : '&' ∉ name := by
  obtain ⟨first, rest, rfl, start, parts⟩ := is_name_cons named
  intro member
  rcases List.mem_cons.mp member with rfl | member
  · exact absurd start (by decide)
  · exact absurd (parts '&' member) (by decide)

theorem ampersand_not_mem_label (kind : Kind) : '&' ∉ kind.label := by
  cases kind <;> decide

theorem spelled_attributes_legible {attributes : Text}
    (spelled : SpelledAttributes written attributes) (rest : Text) :
    (attributes ++ rest).isLegible =
      (written.all (fun pair => pair.2.isLegible) && rest.isLegible) := by
  induction spelled with
  | none => rfl
  | @more blanks name value written others gap blank named closed further induction =>
      have regrouped : blanks ++ (name ++ '=' :: '"' :: (value ++ '"' :: others)) ++ rest =
          (blanks ++ (name ++ ['=', '"'])) ++ (value ++ '"' :: (others ++ rest)) := by simp
      have free : '&' ∉ blanks ++ (name ++ ['=', '"']) := by
        simp [ampersand_not_mem_blanks blank, ampersand_not_mem_name named]
      rw [regrouped, Text.legible_plain free, Text.legible_quoted, induction, List.all_cons,
        Bool.and_assoc]

/-- A marker is legible exactly if all of its values are. -/
theorem spelled_legible (spelled : Spelled kind written raw) :
    raw.isLegible = written.all fun pair => pair.2.isLegible := by
  obtain ⟨joined, spelled, blank⟩ := spelled
  rename_i mark attributes blanks
  have regrouped : "[richdoc".toList ++ mark :: (kind.label ++ (attributes ++ (blanks ++ [']']))) =
      ("[richdoc".toList ++ mark :: kind.label) ++ (attributes ++ (blanks ++ [']'])) := by simp
  have inTag : '&' ∉ "[richdoc".toList ++ mark :: kind.label := by
    have start : '&' ∉ "[richdoc".toList := by decide
    have notMark : '&' ≠ mark := by
      rcases joined with rfl | rfl
      all_goals decide
    simp only [List.mem_append, List.mem_cons, not_or]
    exact ⟨start, notMark, ampersand_not_mem_label kind⟩
  have inEnd : '&' ∉ blanks ++ [']'] := by
    simp [ampersand_not_mem_blanks blank]
  have ending := Text.legible_plain inEnd []
  rw [List.append_nil] at ending
  rw [regrouped, Text.legible_plain inTag, spelled_attributes_legible spelled, ending]
  exact Bool.and_true _

end RichText.Marker
