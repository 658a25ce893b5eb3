import RichText.Proofs.Markup.Composed
import RichText.Proofs.Markup.Forgery

/-!
Well-formed fragments, as a grammar of texts: what stands between tags is free of angle brackets and
quotes, every element is closed under its own name around a well-formed content, and no attribute value
ends before its quote. The text of a tree without markers lies in the grammar.
-/

namespace RichText.Markup

/-- Attributes behind the name of a tag. -/
inductive AttributesWritten : Text → Prop
  | nil : AttributesWritten []
  | cons {name value rest : Text} (valid : isNameText name = true) (inside : '"' ∉ value)
      (others : AttributesWritten rest) :
      AttributesWritten (" " ++ name ++ "=\"" ++ value ++ "\"" ++ rest)

inductive WellFormed : Text → Prop
  | nil : WellFormed []
  | text {raw rest : Text} (bare : ∀ char ∈ raw, char ≠ '<' ∧ char ≠ '>' ∧ char ≠ '"')
      (others : WellFormed rest) : WellFormed (raw ++ rest)
  | comment {body rest : Text} (inside : '>' ∉ body) (others : WellFormed rest) :
      WellFormed ("<!-- " ++ body ++ " -->" ++ rest)
  | rule {rest : Text} (others : WellFormed rest) : WellFormed ("<hr />" ++ rest)
  | image {attributes rest : Text} (written : AttributesWritten attributes)
      (others : WellFormed rest) : WellFormed ("<img" ++ attributes ++ " />" ++ rest)
  | element {tag attributes content rest : Text} (valid : isNameText tag = true)
      (written : AttributesWritten attributes) (inside : WellFormed content)
      (others : WellFormed rest) :
      WellFormed ("<" ++ tag ++ attributes ++ ">" ++ content ++ "</" ++ tag ++ ">" ++ rest)

theorem attributes_written (attributes : List (Name × Text)) :
    AttributesWritten (attributesText (named attributes)) := by
  induction attributes with
  | nil => exact .nil
  | cons pair attributes induction =>
      obtain ⟨name, value⟩ := pair
      exact .cons name.isName (Marker.escape_attribute_no_quote value) induction

theorem escape_bare (raw : Text) :
    ∀ char ∈ Text.escape raw, char ≠ '<' ∧ char ≠ '>' ∧ char ≠ '"' := by
  intro char member
  refine ⟨?_, ?_, ?_⟩
  all_goals
    rintro rfl
    exact escape_free (by decide) raw member

mutual

theorem item_well_formed (item : Item) (plain : item.Plain)
    (noMarker : ∀ token ∈ item.tokens, token.marker? = none) {rest : Text}
    (others : WellFormed rest) : WellFormed (item.toText ++ rest) := by
  cases item with
  | text raw => exact .text (escape_bare raw) others
  | comment raw =>
      have inside : '>' ∉ Text.replace '>' "&gt;" (Text.singleHyphens raw) :=
        fun member => comment_body_inside raw (List.mem_append_left _ member)
      exact .comment inside others
  | marker given =>
      have none := noMarker (.marker given) (by simp [Item.tokens])
      exact absurd none (by simp [Token.marker?])
  | void tag attributes flags =>
      obtain ⟨rfl, known⟩ := plain
      have noFlags : flagsText ([].map Name.text) = [] := rfl
      rw [Item.toText, voidElement, noFlags, List.append_nil]
      rcases known with ⟨isRule, rfl⟩ | isImage
      · rw [isRule]
        exact .rule others
      · rw [isImage]
        exact .image (attributes_written attributes) others
  | element tag attributes flags content =>
      obtain ⟨rfl, plain⟩ := plain
      have inside := items_well_formed content plain
        fun token member => noMarker token (List.mem_append_right _ member)
      rw [Item.toText, List.map_nil, ← element_eq, element]
      exact .element tag.isName (attributes_written attributes) inside others

theorem items_well_formed (items : List Item) (plain : PlainAmong items)
    (noMarker : ∀ token ∈ tokensOf items, token.marker? = none) : WellFormed (textOf items) := by
  cases items with
  | nil => exact .nil
  | cons item items =>
      have others := items_well_formed items plain.2
        fun token member => noMarker token (List.mem_append_right _ member)
      exact item_well_formed item plain.1
        (fun token member => noMarker token (List.mem_append_left _ member)) others

end

/-- Without markers, the text of a tree is well-formed. -/
theorem composed_well_formed {allows : Token → Prop} {text : Text} (composed : Composed allows [] text) :
    WellFormed text := by
  obtain ⟨tree, rfl, none, -⟩ := composed
  exact items_well_formed tree tree.plain (List.filterMap_eq_nil_iff.mp none)

end RichText.Markup
