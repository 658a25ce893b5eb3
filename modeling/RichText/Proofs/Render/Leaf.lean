import Mathlib.Data.List.Basic
import RichText.Proofs.Markup.Delimited
import RichText.Proofs.Render.Headings

/-!
What the rendering of a text leaf tells about it. Without its tags it is the text, and the tags at its
front are those of the known marks, in their order. So different texts, and different known marks, are
rendered differently.
-/

namespace RichText

namespace Markup

/-- A mark that has an element. -/
def isMark (mark : Text) : Bool := (markTag? mark).isSome

/-- The mark that an element stands for. -/
def markOf? (tag : Text) : Option Text :=
  if tag = "strong" then some "bold"
  else if tag = "em" then some "italic"
  else if tag = "u" then some "underline"
  else if tag = "code" then some "code"
  else if tag = "sup" then some "superscript"
  else if tag = "sub" then some "subscript"
  else none

theorem mark_of_tag {mark tag : Text} (known : markTag? mark = some tag) : markOf? tag = some mark := by
  unfold markTag? at known
  split_ifs at known with bold italic underline code superscript subscript
  all_goals
    subst mark
    obtain rfl := Option.some.inj known
    decide

theorem known_mark_cases (mark : Text) :
    (markTag? mark).bind markOf? = Option.guard isMark mark := by
  cases known : markTag? mark with
  | none => simp [Option.guard, isMark, known]
  | some tag => simp [Option.guard, isMark, known, mark_of_tag known]

/-- The elements of marks say which known marks they are of, -/
theorem marks_of_tags (marks : List Text) :
    (marks.filterMap markTag?).filterMap markOf? = marks.filter isMark := by
  rw [List.filterMap_filterMap, ← List.filterMap_eq_filter]
  exact List.filterMap_congr fun mark _ => known_mark_cases mark

/-- and unknown marks have none. -/
theorem tags_of_marks (marks : List Text) :
    marks.filterMap markTag? = (marks.filter isMark).filterMap markTag? := by
  rw [List.filterMap_filter]
  apply List.filterMap_congr
  intro mark _
  unfold isMark
  cases markTag? mark with
  | none => rfl
  | some tag => rfl

end Markup

namespace Render

open Markup (element isMark markTag?)

/-- Text inside elements, the first outermost. -/
def wrapped (tags : List Text) (content : Text) : Text :=
  tags.foldr (fun tag inner => element tag [] inner) content

theorem marked_text_eq (content : Text) (marks : List Text) :
    (markedText content marks).value = wrapped (marks.filterMap markTag?) content := by
  induction marks with
  | nil => rfl
  | cons mark marks induction =>
      rw [markedText, Noted.bind_value, induction, Markup.mark?]
      cases known : markTag? mark with
      | none => rw [List.filterMap_cons_none known]; rfl
      | some tag => rw [List.filterMap_cons_some known]; rfl

/-- Which elements a text without tags is wrapped in is seen from outside. -/
theorem wrapped_tags {tags others : List Text} {content other : Text}
    (named : ∀ tag ∈ tags, '>' ∉ tag) (otherNamed : ∀ tag ∈ others, '>' ∉ tag)
    (free : '<' ∉ content) (otherFree : '<' ∉ other)
    (same : wrapped tags content = wrapped others other) : tags = others := by
  have opening (tag inner : Text) : element tag [] inner =
      '<' :: (tag ++ '>' :: (inner ++ '<' :: '/' :: (tag ++ [('>' : Char)]))) := by
    simp [element, Markup.attributesText]
  induction tags generalizing others with
  | nil =>
      cases others with
      | nil => rfl
      | cons tag others =>
          have start : content = element tag [] (wrapped others other) := same
          rw [start, opening] at free
          exact absurd List.mem_cons_self free
  | cons tag tags induction =>
      cases others with
      | nil =>
          have start : element tag [] (wrapped tags content) = other := same
          rw [← start, opening] at otherFree
          exact absurd List.mem_cons_self otherFree
      | cons next others =>
          obtain ⟨tagNamed, tagsNamed⟩ := List.forall_mem_cons.mp named
          obtain ⟨nextNamed, othersNamed⟩ := List.forall_mem_cons.mp otherNamed
          have elements : element tag [] (wrapped tags content) = element next [] (wrapped others other) :=
            same
          have bodies := elements
          rw [opening, opening] at bodies
          obtain ⟨rfl, -⟩ := Text.cut_at_first tagNamed nextNamed (List.cons.inj bodies).2
          rw [induction tagsNamed othersNamed (Markup.content_of_element elements)]

theorem mark_tags_named (marks : List Text) : ∀ tag ∈ marks.filterMap markTag?, '>' ∉ tag := by
  intro tag member
  obtain ⟨mark, -, known⟩ := List.mem_filterMap.mp member
  obtain ⟨-, -, -, -, -, -, -, noEnd⟩ := Page.Heading.ordinary_parts (ordinary_mark known)
  exact noEnd

theorem of_markup_leaf (value : Text) (marks : List Text) :
    Text.ofMarkup (leaf value marks).value = .ok value := by
  have dropped := Page.Heading.drop_tags_marked (leaf_marked value marks) []
  have nothing : Text.dropTags [] = [] := rfl
  rw [nothing, List.append_nil, List.append_nil] at dropped
  rw [Text.ofMarkup, dropped,
    Text.unescaped_of_nondecimal (Text.nondecimal_of_finished (Text.escape_finished value)),
    Text.unescape_escaped]

/-- A leaf tells its text, and it is its text and its known marks that settle how it is rendered. -/
theorem leaf_faithful (value : Text) (marks : List Text) :
    Text.ofMarkup (leaf value marks).value = .ok value ∧
      ∀ other others, (leaf value marks).value = (leaf other others).value ↔
        value = other ∧ marks.filter isMark = others.filter isMark := by
  refine ⟨of_markup_leaf value marks, ?_⟩
  intro other others
  have free (text : Text) : '<' ∉ Text.escape text := Markup.escape_free (.inr (.inl rfl)) text
  constructor
  · intro same
    have values : value = other := by
      have shown := of_markup_leaf value marks
      rw [same, of_markup_leaf] at shown
      exact (Except.ok.inj shown).symm
    rw [leaf, leaf, marked_text_eq, marked_text_eq] at same
    have tags := wrapped_tags (mark_tags_named marks) (mark_tags_named others) (free value) (free other)
      same
    rw [← Markup.marks_of_tags, ← Markup.marks_of_tags, tags]
    exact ⟨values, rfl⟩
  · rintro ⟨rfl, same⟩
    rw [leaf, leaf, marked_text_eq, marked_text_eq, Markup.tags_of_marks, same, ← Markup.tags_of_marks]

end Render

end RichText
