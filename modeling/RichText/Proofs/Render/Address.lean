import Mathlib.Data.List.Basic
import RichText.Proofs.Marker.RoundTrip
import RichText.Proofs.Markup.Woven
import RichText.Proofs.Render.Embed
import RichText.Proofs.Text.Unescape
import RichText.Value.Spelling

/-!
Where the links of link entries lead. An entry is written as a button where it stands alone, and as a plain
link inside a line. Both lead to the same place, except for internal links that have an address of their
own or no text.
-/

namespace RichText

/-! ## Texts of fields -/

namespace Binary64

theorem signed_present {negative : Bool} {text : Text} (present : text ≠ []) :
    signed negative text ≠ [] := by
  cases negative with
  | false => exact present
  | true => exact List.cons_ne_nil _ _

theorem positional_present (digits : Text) (point : Int) : positional digits point ≠ [] := by
  simp only [positional]
  split_ifs <;> simp

theorem scientific_present (digits : Text) (point : Int) : scientific spelling digits point ≠ [] := by
  simp [scientific]

theorem to_text_present (number : Binary64) : number.toText ≠ [] := by
  cases number with
  | notANumber => exact List.cons_ne_nil _ _
  | infinite negative => exact signed_present (List.cons_ne_nil _ _)
  | finite negative mantissa exponent =>
      rw [toText]
      split_ifs
      · exact signed_present (List.cons_ne_nil _ _)
      · generalize shortest mantissa exponent = found
        obtain ⟨digits, power⟩ := found
        simp only
        generalize dropZeros 400 digits power = kept
        apply signed_present
        split_ifs
        · exact positional_present _ _
        · exact scientific_present _ _

end Binary64

namespace Value

theorem nested_present (labels : List Nat) (value : Value) : value.nestedIn labels ≠ [] := by
  cases value with
  | null => exact List.cons_ne_nil _ _
  | bool value => cases value <;> exact List.cons_ne_nil _ _
  | int value =>
      cases value with
      | ofNat value => exact Nat.toDigits_ne_nil
      | negSucc value => exact List.cons_ne_nil _ _
  | float value => exact value.to_text_present
  | text value => exact List.cons_ne_nil _ _
  | bytes value => exact List.cons_ne_nil _ _
  | date value => exact List.cons_ne_nil _ _
  | instant value => exact List.cons_ne_nil _ _
  | list items => exact List.cons_ne_nil _ _
  | set items => cases items <;> exact List.cons_ne_nil _ _
  | map entries => exact List.cons_ne_nil _ _
  | pair first second => exact List.cons_ne_nil _ _
  | loop label value =>
      unfold nestedIn
      split
      · cases value.shape <;> exact List.cons_ne_nil _ _
      · exact nested_present (label :: labels) value
  | again label shape => cases shape <;> exact List.cons_ne_nil _ _

/-- Only the empty text is written as nothing. -/
theorem to_text_present {value : Value} (present : value ≠ .text []) : value.toText ≠ [] := by
  unfold toText
  split
  · rename_i text
    exact fun empty => present (congrArg Value.text empty)
  · simp [Date.toText]
  · simp [Instant.toText]
  · exact nested_present [] value

end Value

namespace Embed

theorem first_text_present {first second : Text} (present : second ≠ []) : firstText first second ≠ [] := by
  unfold firstText
  split
  · exact present
  · rename_i filled
    simpa using filled

theorem filled_iff {text : Text} : (!text.isEmpty) = true ↔ text ≠ [] := by
  rw [Bool.not_eq_true', List.isEmpty_eq_false_iff]

/-- A field is empty only if it is missing or the empty text, so the default is chosen by the text alone. -/
theorem text_or_default (default : Text) (value : Value) :
    Entry.textOr default value = firstText (Entry.textOr [] value) default := by
  unfold Entry.textOr
  split
  · rfl
  · rfl
  · rename_i value _ notEmpty
    have present := Value.to_text_present fun same => notEmpty same
    simp [firstText, present]

/-- A default stands for a text that is missing. -/
theorem link_text_default (entry : Entry) (default : Text) :
    linkText entry default = firstText (linkText entry []) default := by
  unfold linkText
  rw [Entry.fieldText, Entry.fieldText, Entry.fieldText, text_or_default default]
  generalize Entry.textOr [] (entry.field "linkText") = own
  cases own <;> rfl

end Embed

/-! ## Addresses in markup -/

namespace Markup

/-- A text without the opening tag of a paragraph at its front. -/
def insideParagraph (markup : Text) : Text :=
  match List.dropPrefix? markup "<p" with
  | some rest => (rest.dropWhile fun char => char ≠ '>').drop 1
  | none => markup

/-- The address of the anchor at the front of a text. -/
def frontAddress? (markup : Text) : Option Text :=
  (List.dropPrefix? markup "<a href=\"").map fun rest =>
    Text.unescape (rest.takeWhile fun char => char ≠ '"')

/-- The address of the anchor at the front of a text or of a paragraph. -/
def anchorAddress? (markup : Text) : Option Text := frontAddress? (insideParagraph markup)

theorem drop_front (front rest : Text) : List.dropPrefix? (front ++ rest) front = some rest :=
  List.dropPrefix?_append_of_beq rest (BEq.refl front)

theorem no_front {text : Text} (free : '<' ∉ text) (tag : Text) :
    List.dropPrefix? text ('<' :: tag) = none := by
  cases text with
  | nil => rfl
  | cons char text =>
      have other : char ≠ '<' := fun same => free (same ▸ List.mem_cons_self)
      simp [List.dropPrefix?, other]

theorem inside_of_tag {attributes : Text} (free : '>' ∉ attributes) (content : Text) :
    insideParagraph ("<p" ++ (attributes ++ '>' :: content)) = content := by
  rw [insideParagraph, drop_front]
  simp only [Text.drop_until free, List.drop_one, List.tail_cons]

section Link

variable (url content cssClass rest : Text)

theorem link_text : link url content false cssClass ++ rest = "<a href=\"" ++
    (Text.escapeAttribute url ++ '"' :: (attributesText (optional "class" cssClass) ++
      (">" ++ (content ++ ("</a>" ++ rest))))) := by
  simp [link, element, attributesText, attributeText]

theorem front_address_link : frontAddress? (link url content false cssClass ++ rest) = some url := by
  have free := Marker.escape_attribute_no_quote url
  rw [link_text, frontAddress?, drop_front, Option.map_some, Text.take_until free,
    Text.unescape_escaped_attribute]

theorem address_of_link : anchorAddress? (link url content false cssClass) = some url := by
  have outside : insideParagraph (link url content false cssClass) =
      link url content false cssClass ++ [] := by
    rw [List.append_nil, ← List.append_nil (link url content false cssClass), link_text]
    rfl
  rw [anchorAddress?, outside, front_address_link]

/-- A paragraph that starts with an anchor has its address. -/
theorem address_of_paragraph {paragraphClass : Text}
    (inTag : '>' ∉ attributesText (optional "class" paragraphClass)) :
    anchorAddress? (paragraph (link url content false cssClass) paragraphClass) = some url := by
  have written : paragraph (link url content false cssClass) paragraphClass = "<p" ++
      (attributesText (optional "class" paragraphClass) ++
        '>' :: (link url content false cssClass ++ "</p>")) := by
    simp [paragraph, element]
  rw [anchorAddress?, written, inside_of_tag inTag, front_address_link]

end Link

theorem no_address_in_comment (text : Text) : anchorAddress? (placeholder text) = none := rfl

theorem no_address_in_text (text : Text) : anchorAddress? (Text.escape text) = none := by
  have free : '<' ∉ Text.escape text := escape_free (.inr (.inl rfl)) text
  have outside : insideParagraph (Text.escape text) = Text.escape text := by
    have none : List.dropPrefix? (Text.escape text) "<p" = none := no_front free _
    rw [insideParagraph, none]
  have none : List.dropPrefix? (Text.escape text) "<a href=\"" = none := no_front free _
  rw [anchorAddress?, outside, frontAddress?, none, Option.map_none]

end Markup

/-! ## Addresses of link entries -/

namespace Embed

open Markup (anchorAddress?)

/-- Where the button of a link entry leads. -/
def blockTarget? (setting : Setting) (entry : Entry) : Option Text :=
  if entry.fieldText "type" = "backtotop" then some ('#' :: setting.config.links.backToTopAnchor)
  else if entry.fieldText "type" = "internal" then
    some ('/' :: Text.slug (linkText entry "Learn More"))
  else if entry.fieldText "url" = [] then none
  else some (Url.normalized (entry.fieldText "url"))

/-- Where a link entry leads from inside a line. -/
def inlineTarget? (setting : Setting) (entry : Entry) : Option Text :=
  if entry.fieldText "type" = "backtotop" then some ('#' :: setting.config.links.backToTopAnchor)
  else if entry.fieldText "url" ≠ [] then some (Url.normalized (entry.fieldText "url"))
  else if entry.fieldText "type" = "internal" then some ('/' :: Text.slug (linkText entry "Link"))
  else none

/-- An internal link that leads elsewhere from a line than from a block: its address is not the one of its
text, or it has neither an address nor a text. -/
inductive LeadsApart (entry : Entry) : Prop
  | ownAddress (internal : entry.fieldText "type" = "internal") (given : entry.fieldText "url" ≠ [])
      (other : Url.normalized (entry.fieldText "url") ≠ '/' :: Text.slug (linkText entry "Learn More"))
  | noText (internal : entry.fieldText "type" = "internal") (noAddress : entry.fieldText "url" = [])
      (noText : linkText entry [] = [])

theorem LeadsApart.internal {entry : Entry} (apart : LeadsApart entry) :
    entry.fieldText "type" = "internal" := by
  cases apart with
  | ownAddress internal => exact internal
  | noText internal => exact internal

/-- Without an address of its own, an internal link leads apart only if it has no text. -/
theorem text_targets_agree_iff (entry : Entry) :
    Text.slug (linkText entry "Learn More") = Text.slug (linkText entry "Link") ↔
      linkText entry [] ≠ [] := by
  rw [link_text_default entry "Learn More", link_text_default entry "Link"]
  cases linkText entry [] with
  | nil => exact iff_of_false (by decide +kernel) (not_not_intro rfl)
  | cons first rest => exact iff_of_true rfl (List.cons_ne_nil _ _)

section Target

variable (setting : Setting) (entry : Entry)

theorem block_link_leads : ∃ markup, (blockLink setting entry).outcome = .ok markup ∧
    anchorAddress? markup = blockTarget? setting entry := by
  -- The default keeps the text from being empty, so an internal link always has a target.
  have titled : linkText entry "Learn More" ≠ [] := by
    rw [link_text_default]
    exact first_text_present (List.cons_ne_nil _ _)
  unfold blockLink blockTarget?
  by_cases top : entry.fieldText "type" = "backtotop"
  · rw [if_pos top, if_pos top]
    exact ⟨_, rfl, Markup.address_of_paragraph _ _ _ (by decide)⟩
  rw [if_neg top, if_neg top]
  by_cases internal : entry.fieldText "type" = "internal"
  · rw [if_pos (Bool.and_eq_true_iff.mpr ⟨decide_eq_true internal, filled_iff.mpr titled⟩),
      if_pos internal]
    exact ⟨_, rfl, Markup.address_of_paragraph _ _ _ (by decide)⟩
  rw [if_neg fun both => internal (of_decide_eq_true (Bool.and_eq_true_iff.mp both).1),
    if_neg internal]
  by_cases none : entry.fieldText "url" = []
  · rw [if_neg fun filled => filled_iff.mp filled none, if_pos none]
    exact ⟨_, rfl, Markup.no_address_in_comment _⟩
  · rw [if_pos (filled_iff.mpr none), if_neg none]
    exact ⟨_, rfl, Markup.address_of_paragraph _ _ _ (by decide)⟩

theorem inline_link_leads : anchorAddress? (inlineLink setting entry) = inlineTarget? setting entry := by
  unfold inlineLink inlineTarget?
  by_cases top : entry.fieldText "type" = "backtotop"
  · rw [if_pos top, if_pos top]
    exact Markup.address_of_link _ _ []
  rw [if_neg top, if_neg top]
  by_cases none : entry.fieldText "url" = []
  · rw [if_neg fun filled => filled_iff.mp filled none, if_neg (not_not_intro none)]
    by_cases internal : entry.fieldText "type" = "internal"
    · rw [if_pos internal, if_pos internal]
      exact Markup.address_of_link _ _ []
    · rw [if_neg internal, if_neg internal]
      exact Markup.no_address_in_text _
  · rw [if_pos (filled_iff.mpr none), if_pos none]
    exact Markup.address_of_link _ _ []

theorem targets_agree_iff : (∀ target other, blockTarget? setting entry = some target →
    inlineTarget? setting entry = some other → target = other) ↔ ¬LeadsApart entry := by
  have both (target other : Text) : (∀ block inline, some target = some block →
      some other = some inline → block = inline) ↔ target = other := by simp
  unfold blockTarget? inlineTarget?
  by_cases top : entry.fieldText "type" = "backtotop"
  · rw [if_pos top, if_pos top, both]
    exact iff_of_true rfl fun apart => absurd (top.symm.trans apart.internal) (by decide)
  rw [if_neg top, if_neg top]
  by_cases internal : entry.fieldText "type" = "internal"
  · rw [if_pos internal, if_pos internal]
    by_cases none : entry.fieldText "url" = []
    · rw [if_neg (not_not_intro none), both]
      have texts := text_targets_agree_iff entry
      constructor
      · intro same apart
        cases apart with
        | ownAddress _ given _ => exact given none
        | noText _ _ noText => exact texts.mp (List.cons.inj same).2 noText
      · intro together
        exact congrArg (List.cons '/') (texts.mpr fun noText => together (.noText internal none noText))
    · rw [if_pos none, both]
      constructor
      · intro same apart
        cases apart with
        | ownAddress _ _ other => exact other same.symm
        | noText _ noAddress _ => exact none noAddress
      · intro together
        by_contra other
        exact together (.ownAddress internal none fun same => other same.symm)
  · rw [if_neg internal, if_neg internal]
    apply iff_of_true ?_ fun apart => internal apart.internal
    by_cases none : entry.fieldText "url" = []
    · rw [if_pos none]
      exact fun _ _ found => absurd found nofun
    · rw [if_neg none, if_pos none, both]

end Target

/-- An entry of the link kind leads to the same place as a block and inside a line exactly if it does not
lead apart. -/
theorem link_leads_to_one_place_iff {setting : Setting} {id : Text} {entry : Entry}
    (found : setting.store.entry? id = some entry) (isLink : setting.kindOf entry = .link)
    (nested : Nested) (place : Place) (trail : Trail) :
    ∃ block inline,
      (render setting nested { id := some id, place, trail }).outcome = .ok block ∧
        (render setting nested { id := some id, place, inline := true, trail }).outcome = .ok inline ∧
        ((∀ target other, anchorAddress? block = some target → anchorAddress? inline = some other →
          target = other) ↔ ¬LeadsApart entry) := by
  obtain ⟨markup, written, leads⟩ := block_link_leads setting entry
  have present : (some id).filter (fun id => !id.isEmpty) = some id := by
    simp [Option.filter, (Render.entry_of_id found).1]
  refine ⟨markup, inlineLink setting entry, ?_, ?_, ?_⟩
  · simp only [render, Embed.block, present, found, isLink, block?, Bool.false_eq_true, if_false]
    exact written
  · simp only [render, inlineEntry, present, found, isLink, if_true]
    rfl
  · rw [leads, inline_link_leads]
    exact targets_agree_iff setting entry

/-- An internal link with an address of its own. -/
def twofoldLink : Entry where
  id := "l"
  contentType := "link"
  fields := [("type", .text "internal"), ("linkText", .text "Memory Care Costs"),
    ("url", .text "https://example.org/page")]

def twofoldSetting : Setting := { store := { entries := [twofoldLink] } }

theorem twofold_link_leads_apart :
    twofoldSetting.store.entry? "l" = some twofoldLink ∧ twofoldSetting.kindOf twofoldLink = .link ∧
      ∃ block inline,
        (render twofoldSetting (fun _ _ => pure []) { id := some "l" }).outcome = .ok block ∧
          (render twofoldSetting (fun _ _ => pure []) { id := some "l", inline := true }).outcome =
            .ok inline ∧
          ¬∀ target other, anchorAddress? block = some target → anchorAddress? inline = some other →
            target = other := by
  have found : twofoldSetting.store.entry? "l" = some twofoldLink := rfl
  have isLink : twofoldSetting.kindOf twofoldLink = .link := by decide +kernel
  obtain ⟨block, inline, asBlock, inLine, agree⟩ :=
    link_leads_to_one_place_iff found isLink (fun _ _ => pure []) .alone []
  have apart : LeadsApart twofoldLink :=
    .ownAddress rfl (List.cons_ne_nil _ _) (by decide +kernel)
  exact ⟨found, isLink, block, inline, asBlock, inLine, fun same => agree.mp same apart⟩

end Embed

end RichText
