import RichText.Proofs.Markup.Nested

/-!
Fragments without decimal references. Whatever texts and attribute values a tree holds, its writer leaves
no decimal reference in them; only a comment keeps those of its text.
-/

namespace RichText

open Text (Finished finished_append finished_plain finished_each)

/-- A marker is written without decimal references if its names are names. -/
theorem Marker.to_text_finished {marker : Marker}
    (valid : ∀ pair ∈ marker.written, Marker.isName pair.1 = true) : Finished marker.toText := by
  have one (pair : Text × Text) (member : pair ∈ marker.written) :
      Finished (' ' :: Marker.attributeText pair.1 pair.2) := by
    have opening : '&' ∉ ' ' :: (pair.1 ++ "=\"") := by
      simp [Marker.ampersand_not_mem_name (valid pair member)]
    exact finished_append (finished_append (finished_plain opening)
      (Text.escape_attribute_finished pair.2)) (finished_plain (by decide))
  have opening : '&' ∉ "[richdoc".toList ++ '_' :: marker.kind.label := by
    cases marker.kind <;> decide
  have whole := finished_append (finished_plain opening)
    (finished_append (finished_each one) (finished_plain (show '&' ∉ "]".toList by decide)))
  rw [Marker.to_text_eq]
  simpa using whole

namespace Markup

/-- A token that is written without decimal references. -/
def Token.Nondecimal : Token → Prop
  | .value _ => True
  | .comment _ => False
  | .marker given => ∀ pair ∈ given.written, Marker.isName pair.1 = true

theorem tame_nondecimal {token : Token} (tame : token.Tame) : token.Nondecimal := by
  cases token with
  | value given => trivial
  | comment raw => exact tame
  | marker given =>
      have writable : given.Writable := tame
      exact writable.names_valid

theorem ampersand_not_mem_name (name : Name) : '&' ∉ name.text := by
  intro member
  exact (name_char_cases (name.forall_char '&' member)).2.1 rfl

theorem flags_finished (flags : List Name) : Finished (flagsText (flags.map Name.text)) := by
  apply finished_plain
  simp [flagsText, ampersand_not_mem_name]

theorem attributes_finished (attributes : List (Name × Text)) :
    Finished (attributesText (named attributes)) := by
  apply finished_each
  intro pair member
  obtain ⟨⟨name, value⟩, -, rfl⟩ := List.mem_map.mp member
  have opening : '&' ∉ " " ++ name.text ++ "=\"" := by
    simp [ampersand_not_mem_name]
  exact finished_append (finished_append (finished_plain opening)
    (Text.escape_attribute_finished value)) (finished_plain (by decide))

/-- The opening of a tag up to its end. -/
theorem tag_finished (tag : Name) (attributes : List (Name × Text)) (flags : List Name) :
    Finished ("<" ++ tag.text ++ attributesText (named attributes) ++
      flagsText (flags.map Name.text)) := by
  have name : '&' ∉ "<" ++ tag.text := by
    simp [ampersand_not_mem_name]
  exact finished_append (finished_append (finished_plain name) (attributes_finished attributes))
    (flags_finished flags)

mutual

theorem item_finished (item : Item) (each : ∀ token ∈ item.tokens, token.Nondecimal) :
    Finished item.toText := by
  cases item with
  | text raw => exact Text.escape_finished raw
  | comment raw => exact (each (.comment raw) (by simp [Item.tokens])).elim
  | marker given => exact Marker.to_text_finished (each (.marker given) (by simp [Item.tokens]))
  | void tag attributes flags =>
      exact finished_append (tag_finished tag attributes flags) (finished_plain (by decide))
  | element tag attributes flags content =>
      have inside := items_finished content fun token member =>
        each token (List.mem_append_right _ member)
      have ends : Finished ">" := finished_plain (by decide)
      have opened := finished_append (finished_append (tag_finished tag attributes flags) ends) inside
      have closing : '&' ∉ "</" ++ tag.text ++ ">" := by
        simp [ampersand_not_mem_name]
      have whole := finished_append opened (finished_plain closing)
      simpa [Item.toText, flaggedElement] using whole

theorem items_finished (items : List Item) (each : ∀ token ∈ tokensOf items, token.Nondecimal) :
    Finished (textOf items) := by
  cases items with
  | nil => exact finished_plain List.not_mem_nil
  | cons item items =>
      have first := item_finished item fun token member =>
        each token (List.mem_append_left _ member)
      have others := items_finished items fun token member =>
        each token (List.mem_append_right _ member)
      exact finished_append first others

end

theorem built_nondecimal {text : Text} (built : Built text) : Text.Nondecimal text := by
  obtain ⟨items, rfl, -, firm⟩ := built
  refine Text.nondecimal_of_finished (items_finished items ?_)
  intro token member
  have firm := firm token member
  cases token with
  | value given => trivial
  | comment raw => exact firm
  | marker given => exact firm.elim

end Markup

end RichText
