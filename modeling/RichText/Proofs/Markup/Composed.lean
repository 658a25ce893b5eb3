import RichText.Proofs.Markup.Item
import RichText.Proofs.Text.Span

/-!
Texts that are those of a tree. The rules below follow the functions that write markup: whatever they
build from texts of trees is the text of a tree again, with the same markers in the same order.
-/

namespace RichText.Markup

mutual

theorem bracket_of_marker_token (item : Item) {given : Marker} (member : .marker given ∈ item.tokens) :
    '[' ∈ item.toText := by
  have noValue (attributes : List (Name × Text)) : .marker given ∉ valueTokens attributes := by
    simp [valueTokens]
  cases item with
  | text raw => exact absurd member List.not_mem_nil
  | comment raw => exact absurd member (by simp [Item.tokens])
  | marker other => simp [Item.toText, Marker.toText]
  | void tag attributes flags => exact absurd member (noValue attributes)
  | element tag attributes flags content =>
      rw [Item.tokens, List.mem_append] at member
      have inside := bracket_of_marker content (member.resolve_left (noValue attributes))
      rw [Item.toText]
      delta flaggedElement
      simp [inside]

/-- A marker is seen in the text of the items around it. -/
theorem bracket_of_marker (items : List Item) {given : Marker}
    (member : .marker given ∈ tokensOf items) : '[' ∈ textOf items := by
  cases items with
  | nil => exact absurd member List.not_mem_nil
  | cons item items =>
      rw [textOf, List.mem_append]
      rw [tokensOf, List.mem_append] at member
      rcases member with member | member
      · exact .inl (bracket_of_marker_token item member)
      · exact .inr (bracket_of_marker items member)

end

/-- Items in a row such as documents write them. -/
structure Tree where
  items : List Item
  plain : PlainAmong items

instance : Coe Tree (List Item) := ⟨Tree.items⟩

section Rules

variable {allows : Token → Prop}

/-- The text of a tree whose tokens are all allowed, and whose markers are the given ones. -/
def Composed (allows : Token → Prop) (markers : List Marker) (text : Text) : Prop :=
  ∃ tree : Tree, textOf tree = text ∧ markersOf tree = markers ∧ ∀ token ∈ tokensOf tree, allows token

/-- Attributes under plain names, with values that are allowed. -/
def Attributed (allows : Token → Prop) (attributes : List (Text × Text)) : Prop :=
  ∀ pair ∈ attributes, isNameText pair.1 = true ∧ allows (.value pair.2)

/-! ## Attributes -/

theorem attributed_nil : Attributed allows [] := fun _ member => absurd member List.not_mem_nil

theorem attributed_cons {name value : Text} {attributes : List (Text × Text)}
    (valid : isNameText name = true) (allowed : allows (.value value))
    (others : Attributed allows attributes) : Attributed allows ((name, value) :: attributes) := by
  intro pair member
  rcases List.mem_cons.mp member with rfl | member
  · exact ⟨valid, allowed⟩
  · exact others pair member

theorem attributed_append {first second : List (Text × Text)} (before : Attributed allows first)
    (after : Attributed allows second) : Attributed allows (first ++ second) := by
  intro pair member
  rcases List.mem_append.mp member with member | member
  · exact before pair member
  · exact after pair member

theorem attributed_optional {name value : Text} (valid : isNameText name = true)
    (allowed : allows (.value value)) : Attributed allows (optional name value) := by
  unfold optional
  split
  · exact attributed_nil
  · exact attributed_cons valid allowed attributed_nil

theorem exists_named {attributes : List (Text × Text)} (attributed : Attributed allows attributes) :
    ∃ given : List (Name × Text), named given = attributes ∧
      ∀ token ∈ valueTokens given, allows token := by
  induction attributes with
  | nil => exact ⟨[], rfl, fun _ member => absurd member List.not_mem_nil⟩
  | cons pair attributes induction =>
      obtain ⟨name, value⟩ := pair
      obtain ⟨valid, allowed⟩ := attributed (name, value) List.mem_cons_self
      obtain ⟨given, rfl, all⟩ :=
        induction fun pair member => attributed pair (List.mem_cons_of_mem _ member)
      refine ⟨(⟨name, valid⟩, value) :: given, rfl, ?_⟩
      intro token member
      rcases List.mem_cons.mp member with rfl | member
      · exact allowed
      · exact all token member

theorem value_tokens_no_marker (attributes : List (Name × Text)) :
    (valueTokens attributes).filterMap Token.marker? = [] := by
  simp [valueTokens, List.filterMap_map, Function.comp_def, Token.marker?]

/-! ## Texts -/

theorem composed_nil : Composed allows [] [] :=
  ⟨⟨[], trivial⟩, rfl, rfl, fun _ member => absurd member List.not_mem_nil⟩

theorem composed_escape (raw : Text) : Composed allows [] (Text.escape raw) :=
  ⟨⟨[.text raw], trivial, trivial⟩, text_of_singleton _, rfl,
    fun _ member => absurd member List.not_mem_nil⟩

/-- A text of the markup itself that needs no escaping. -/
theorem composed_plain {text : Text} (plain : Text.escape text = text) : Composed allows [] text := by
  have escaped := @composed_escape allows text
  rwa [plain] at escaped

theorem composed_comment {raw : Text} (allowed : allows (.comment raw)) :
    Composed allows [] (Text.comment raw) := by
  refine ⟨⟨[.comment raw], trivial, trivial⟩, text_of_singleton _, rfl, ?_⟩
  intro token member
  obtain rfl : token = .comment raw := by simpa [tokensOf, Item.tokens] using member
  exact allowed

theorem composed_marker {given : Marker} (allowed : allows (.marker given)) :
    Composed allows [given] given.toText := by
  refine ⟨⟨[.marker given], trivial, trivial⟩, text_of_singleton _, rfl, ?_⟩
  intro token member
  obtain rfl : token = .marker given := by simpa [tokensOf, Item.tokens] using member
  exact allowed

theorem composed_append {before after : List Marker} {first second : Text}
    (one : Composed allows before first) (other : Composed allows after second) :
    Composed allows (before ++ after) (first ++ second) := by
  obtain ⟨⟨items, plain⟩, rfl, rfl, allowed⟩ := one
  obtain ⟨⟨more, plainMore⟩, rfl, rfl, others⟩ := other
  refine ⟨⟨items ++ more, plain_among_append plain plainMore⟩, text_of_append items more, ?_, ?_⟩
  · rw [markersOf, tokens_of_append, List.filterMap_append]
    rfl
  · intro token member
    rw [tokens_of_append, List.mem_append] at member
    rcases member with member | member
    · exact allowed token member
    · exact others token member

theorem composed_before {markers : List Marker} {first second : Text}
    (one : Composed allows [] first) (other : Composed allows markers second) :
    Composed allows markers (first ++ second) := composed_append one other

theorem composed_after {markers : List Marker} {first second : Text}
    (one : Composed allows markers first) (other : Composed allows [] second) :
    Composed allows markers (first ++ second) := by
  simpa using composed_append one other

/-- A text without visible characters has no markers. -/
theorem composed_blank {markers : List Marker} {text : Text}
    (composed : Composed allows markers text) (blank : Text.trim text = []) : markers = [] := by
  obtain ⟨tree, rfl, rfl, -⟩ := composed
  apply List.filterMap_eq_nil_iff.mpr
  intro token member
  cases token with
  | value given => rfl
  | comment raw => rfl
  | marker given =>
      have visible := Text.mem_trim (bracket_of_marker tree member) (by decide)
      rw [blank] at visible
      exact absurd visible List.not_mem_nil

/-! ## Elements -/

theorem composed_element {markers : List Marker} {tag content : Text}
    {attributes : List (Text × Text)} (valid : isNameText tag = true)
    (attributed : Attributed allows attributes) (inside : Composed allows markers content) :
    Composed allows markers (element tag attributes content) := by
  obtain ⟨given, rfl, values⟩ := exists_named attributed
  obtain ⟨⟨items, plain⟩, rfl, rfl, allowed⟩ := inside
  refine ⟨⟨[.element ⟨tag, valid⟩ given [] items], ⟨rfl, plain⟩, trivial⟩, ?_, ?_, ?_⟩
  · rw [text_of_singleton, element_eq]
    rfl
  · rw [markersOf, tokens_of_singleton, Item.tokens, List.filterMap_append, value_tokens_no_marker]
    rfl
  · intro token member
    rw [tokens_of_singleton, Item.tokens, List.mem_append] at member
    rcases member with member | member
    · exact values token member
    · exact allowed token member

theorem composed_void {tag : Text} {attributes : List (Text × Text)} (valid : isNameText tag = true)
    (known : tag = "hr" ∧ attributes = [] ∨ tag = "img") (attributed : Attributed allows attributes) :
    Composed allows [] (voidElement tag attributes []) := by
  obtain ⟨given, rfl, values⟩ := exists_named attributed
  have plain : (Item.void ⟨tag, valid⟩ given []).Plain :=
    ⟨rfl, known.imp_left (And.imp_right List.map_eq_nil_iff.mp)⟩
  refine ⟨⟨[.void ⟨tag, valid⟩ given []], plain, trivial⟩, text_of_singleton _, ?_, ?_⟩
  · rw [markersOf, tokens_of_singleton]
    exact value_tokens_no_marker given
  · intro token member
    rw [tokens_of_singleton] at member
    exact values token member

theorem composed_lines {markers : List Marker} {content : Text}
    (inside : Composed allows markers content) : Composed allows markers (lines content) := by
  have feed : Composed allows [] ("\n" : String).toList := composed_plain (by decide)
  exact composed_after (composed_before feed inside) feed

/-! ## Texts in a row -/

/-- Texts of trees, with the markers of all of them in order. -/
inductive ComposedAll (allows : Token → Prop) : List Marker → List Text → Prop
  | nil : ComposedAll allows [] []
  | cons {before after : List Marker} {text : Text} {texts : List Text}
      (first : Composed allows before text) (others : ComposedAll allows after texts) :
      ComposedAll allows (before ++ after) (text :: texts)

theorem composed_all_of_forall {texts : List Text} (each : ∀ text ∈ texts, Composed allows [] text) :
    ComposedAll allows [] texts := by
  induction texts with
  | nil => exact .nil
  | cons text texts induction =>
      have others := induction fun other member => each other (List.mem_cons_of_mem _ member)
      exact .cons (each text List.mem_cons_self) others

theorem composed_flatten {markers : List Marker} {texts : List Text}
    (all : ComposedAll allows markers texts) : Composed allows markers texts.flatten := by
  induction all with
  | nil => exact composed_nil
  | cons first others induction => exact composed_append first induction

/-- Texts that are written one for each item. -/
theorem composed_each {α : Type} {items : List α} {write : α → Text}
    (each : ∀ item ∈ items, Composed allows [] (write item)) :
    Composed allows [] (items.map write).flatten :=
  composed_flatten (composed_all_of_forall (List.forall_mem_map.mpr each))

theorem composed_join {markers : List Marker} {texts : List Text} {separator : Text}
    (plain : Text.escape separator = separator) (all : ComposedAll allows markers texts) :
    Composed allows markers (Text.join separator texts) := by
  induction all with
  | nil => exact composed_nil
  | @cons before after text texts first others induction =>
      cases texts with
      | nil =>
          cases others
          simpa [Text.join] using first
      | cons second texts =>
          rw [Text.join, List.intercalate_cons_cons, ← Text.join, List.append_assoc]
          exact composed_append first (composed_before (composed_plain plain) induction)

theorem composed_filter {markers : List Marker} {texts : List Text}
    (all : ComposedAll allows markers texts) :
    ComposedAll allows markers (texts.filter fun text => !text.isEmpty) := by
  induction all with
  | nil => exact .nil
  | @cons before after text texts first others induction =>
      by_cases empty : text = []
      · obtain rfl := composed_blank first (by rw [empty]; rfl)
        rw [List.filter_cons_of_neg (by simp [empty])]
        exact induction
      · rw [List.filter_cons_of_pos (by simp [empty])]
        exact .cons first induction

end Rules

end RichText.Markup
