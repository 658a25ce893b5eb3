import RichText.Proofs.Markup.Forgery

/-!
The exposed parts of a fragment: its attribute values with their quotes, each in front of an angle
bracket, and its comments. Text and tags are left out. Whether a fragment holds a forged marker can be
read off its exposed parts.
-/

namespace RichText.Markup

open Text (escape escapeAttribute)

/-- What a character of a fragment belongs to. -/
inductive Region
  | markup
  | value
  | comment

def exposedFrom : Region → Text → Text
  | _, [] => []
  | .markup, char :: rest =>
      if char = '"' then '"' :: exposedFrom .value rest
      else if char = '<' && rest.head? = some '!' then '<' :: exposedFrom .comment rest
      else exposedFrom .markup rest
  | .value, char :: rest =>
      if char = '"' then '"' :: '>' :: exposedFrom .markup rest
      else char :: exposedFrom .value rest
  | .comment, char :: rest =>
      if char = '>' then '>' :: exposedFrom .markup rest
      else char :: exposedFrom .comment rest

/-- The attribute values and comments of a fragment. -/
def exposed (fragment : Text) : Text := exposedFrom .markup fragment

/-- What of a token is exposed. -/
def Token.exposed : Token → Text
  | .value given => '"' :: (escapeAttribute given ++ ['"', '>'])
  | .comment raw => Text.comment raw
  | .marker _ => []

/-! ## Passing over a region -/

section Regions

variable {text : Text} (rest : Text)

theorem exposed_markup (noQuote : '"' ∉ text) (noAngle : '<' ∉ text) :
    exposedFrom .markup (text ++ rest) = exposedFrom .markup rest := by
  induction text with
  | nil => rfl
  | cons char text induction =>
      simp only [List.mem_cons, not_or] at noQuote noAngle
      rw [List.cons_append, exposedFrom, if_neg (Ne.symm noQuote.1), if_neg,
        induction noQuote.2 noAngle.2]
      simp [Ne.symm noAngle.1]

theorem exposed_value (inside : '"' ∉ text) :
    exposedFrom .value (text ++ '"' :: rest) = text ++ '"' :: '>' :: exposedFrom .markup rest := by
  induction text with
  | nil => rfl
  | cons char text induction =>
      simp only [List.mem_cons, not_or] at inside
      rw [List.cons_append, exposedFrom, if_neg (Ne.symm inside.1), induction inside.2]
      rfl

theorem exposed_comment (inside : '>' ∉ text) :
    exposedFrom .comment (text ++ '>' :: rest) = text ++ '>' :: exposedFrom .markup rest := by
  induction text with
  | nil => rfl
  | cons char text induction =>
      simp only [List.mem_cons, not_or] at inside
      rw [List.cons_append, exposedFrom, if_neg (Ne.symm inside.1), induction inside.2]
      rfl

end Regions

theorem exposed_tag_start {char : Char} (other : char ≠ '!') (rest : Text) :
    exposedFrom .markup ('<' :: char :: rest) = exposedFrom .markup (char :: rest) := by
  rw [exposedFrom, if_neg (by decide), if_neg]
  simp [other]

/-! ## Trees -/

theorem exposed_comment_text (raw rest : Text) :
    exposedFrom .markup (Text.comment raw ++ rest) =
      Text.comment raw ++ exposedFrom .markup rest := by
  have inside : '>' ∉ "!-- ".toList ++ commentBody raw := by
    rw [List.mem_append, not_or]
    exact ⟨by decide, comment_body_inside raw⟩
  have regrouped (rest : Text) : Text.comment raw ++ rest =
      '<' :: (("!-- ".toList ++ commentBody raw) ++ '>' :: rest) := by
    rw [comment_eq, List.append_assoc]
    rfl
  rw [regrouped, regrouped, ← exposed_comment rest inside]
  rfl

theorem exposed_attributes (attributes : List (Name × Text)) (rest : Text) :
    exposedFrom .markup (attributesText (named attributes) ++ rest) =
      (valueTokens attributes).flatMap Token.exposed ++ exposedFrom .markup rest := by
  induction attributes with
  | nil => rfl
  | cons pair attributes induction =>
      obtain ⟨name, value⟩ := pair
      rw [attributes_text_cons, exposed_markup _ (bound_not_mem_attribute (by decide) name)
          (bound_not_mem_attribute (by decide) name), exposedFrom,
        if_pos rfl, exposed_value _ (Marker.escape_attribute_no_quote value), induction]
      simp [valueTokens, Token.exposed]

theorem exposed_tag (tag : Name) (attributes : List (Name × Text)) (flags : List Name)
    {ending : Text} (free : '"' ∉ ending ∧ '<' ∉ ending) (rest : Text) :
    exposedFrom .markup ('<' :: (tag.text ++ (attributesText (named attributes) ++
        (flagsText (flags.map Name.text) ++ (ending ++ rest))))) =
      (valueTokens attributes).flatMap Token.exposed ++ exposedFrom .markup rest := by
  obtain ⟨first, tail, text, letter⟩ := name_first tag
  have other : first ≠ '!' := by
    rintro rfl
    exact absurd letter (by decide)
  have start (rest : Text) : exposedFrom .markup ('<' :: (tag.text ++ rest)) =
      exposedFrom .markup (tag.text ++ rest) := by
    rw [text]
    exact exposed_tag_start other (tail ++ rest)
  rw [start, exposed_markup _ (bound_not_mem_name_text (by decide) tag)
      (bound_not_mem_name_text (by decide) tag), exposed_attributes,
    exposed_markup _ (bound_not_mem_flags (by decide) flags) (bound_not_mem_flags (by decide) flags),
    exposed_markup _ free.1 free.2]

mutual

theorem exposed_item (item : Item) (plain : ∀ token ∈ item.tokens, token.marker? = none)
    (rest : Text) :
    exposedFrom .markup (item.toText ++ rest) =
      item.tokens.flatMap Token.exposed ++ exposedFrom .markup rest := by
  cases item with
  | text raw => exact exposed_markup rest (escape_free (by decide) raw) (escape_free (by decide) raw)
  | comment raw =>
      rw [Item.toText, exposed_comment_text]
      simp [Item.tokens, Token.exposed]
  | marker given =>
      have none := plain (.marker given) (by simp [Item.tokens])
      exact absurd none (by simp [Token.marker?])
  | void tag attributes flags =>
      rw [Item.toText, void_element_eq, exposed_tag tag attributes flags (by decide)]
      rfl
  | element tag attributes flags content =>
      have inside : ∀ token ∈ tokensOf content, token.marker? = none :=
        fun token member => plain token (List.mem_append_right _ member)
      have closing : exposedFrom .markup ('<' :: '/' :: (tag.text ++ '>' :: rest)) =
          exposedFrom .markup rest := by
        have regrouped : '/' :: (tag.text ++ '>' :: rest) = ('/' :: (tag.text ++ ['>'])) ++ rest := by
          simp
        rw [exposed_tag_start (by decide), regrouped, exposed_markup]
        · simp [@bound_not_mem_name_text '"' (by decide) tag]
        · simp [@bound_not_mem_name_text '<' (by decide) tag]
      rw [Item.toText, flagged_element_eq, exposed_tag tag attributes flags (by decide),
        exposed_items content inside, closing, Item.tokens, List.flatMap_append, List.append_assoc]

theorem exposed_items (items : List Item)
    (plain : ∀ token ∈ tokensOf items, token.marker? = none) (rest : Text) :
    exposedFrom .markup (textOf items ++ rest) =
      (tokensOf items).flatMap Token.exposed ++ exposedFrom .markup rest := by
  cases items with
  | nil => rfl
  | cons item items =>
      have first : ∀ token ∈ item.tokens, token.marker? = none :=
        fun token member => plain token (List.mem_append_left _ member)
      have others : ∀ token ∈ tokensOf items, token.marker? = none :=
        fun token member => plain token (List.mem_append_right _ member)
      rw [textOf, tokensOf, List.append_assoc, exposed_item item first, exposed_items items others,
        List.flatMap_append, List.append_assoc]

end

theorem woven_exposed (tokens : List Token) (plain : ∀ token ∈ tokens, token.marker? = none) :
    Woven tokens (tokens.flatMap Token.exposed) := by
  induction tokens with
  | nil => exact .none
  | cons token tokens induction =>
      have further := induction fun token member => plain token (List.mem_cons_of_mem _ member)
      rw [List.flatMap_cons]
      cases token with
      | value given =>
          have bracketed : Woven tokens ('>' :: tokens.flatMap Token.exposed) :=
            .inert (by decide) (fun bracket => absurd bracket (by decide)) further
          have covers := @covers_cons '>' (by decide) (by decide) (by decide)
            (tokens.flatMap Token.exposed)
          simpa [Token.exposed] using Woven.value given covers bracketed
      | comment raw => exact .comment raw further
      | marker given =>
          have none := plain (.marker given) List.mem_cons_self
          exact absurd none (by simp [Token.marker?])

theorem exposed_text (items : List Item) (plain : ∀ token ∈ tokensOf items, token.marker? = none) :
    exposed (textOf items) = (tokensOf items).flatMap Token.exposed := by
  have whole := exposed_items items plain []
  rwa [List.append_nil, exposedFrom, List.append_nil] at whole

/-- A text without markers of its own holds forged ones exactly if its exposed parts do. -/
theorem standing_exposed_iff (items : List Item) (plain : markersOf items = []) :
    Marker.standing (textOf items) = [] ↔ Marker.standing (exposed (textOf items)) = [] := by
  have none : ∀ token ∈ tokensOf items, token.marker? = none :=
    List.filterMap_eq_nil_iff.mp plain
  rw [exposed_text items none]
  exact standing_woven none (woven_text items) (woven_exposed _ none)

end RichText.Markup
