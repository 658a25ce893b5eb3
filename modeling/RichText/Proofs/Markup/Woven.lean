import RichText.Proofs.Marker.RoundTrip
import RichText.Proofs.Marker.Scan
import RichText.Proofs.Markup.Item

/-!
Where the tokens of a tree stand in its text. Between them there is no quote, and no bracket that could
open a marker with attributes; after an attribute value something visible comes before the next quote.
-/

namespace RichText.Markup

open Marker (Guarded)
open Text (escapeAttribute escape unescape trim isBlank)

/-- As the id of a marker the text would count as present. -/
def Shown (text : Text) : Prop := trim (unescape text) ≠ []

/-- Whatever comes before the next quote is visible. -/
def Covers (text : Text) : Prop :=
  ∀ gap after, text = gap ++ '"' :: after → '"' ∉ gap → Shown gap

/-- The tokens of a text in their order, with only inert characters around them. -/
inductive Woven : List Token → Text → Prop
  | none : Woven [] []
  | inert {char : Char} {rest : Text} {tokens : List Token} (plain : char ≠ '"')
      (guarded : char = '[' → Guarded rest) (further : Woven tokens rest) :
      Woven tokens (char :: rest)
  | value (given : Text) {rest : Text} {tokens : List Token} (covers : Covers rest)
      (further : Woven tokens rest) :
      Woven (.value given :: tokens) ('"' :: (escapeAttribute given ++ '"' :: rest))
  | comment (raw : Text) {rest : Text} {tokens : List Token} (further : Woven tokens rest) :
      Woven (.comment raw :: tokens) (Text.comment raw ++ rest)
  | marker (given : Marker) {rest : Text} {tokens : List Token} (further : Woven tokens rest) :
      Woven (.marker given :: tokens) (given.toText ++ rest)

/-! ## Inert characters -/

theorem guarded_nil : Guarded [] := by
  intro before after same
  exact absurd same (by simp)

theorem guarded_cons {char : Char} (opens : char = '<' ∨ char = '[') (rest : Text) :
    Guarded (char :: rest) := by
  intro before after same
  cases before with
  | nil =>
      obtain rfl : char = '"' := (List.cons.inj same).1
      exact absurd opens (by decide)
  | cons first before =>
      obtain rfl : char = first := (List.cons.inj same).1
      rcases opens with rfl | rfl
      · exact .inl (by simp)
      · exact .inr (by simp)

theorem guarded_append {text rest : Text} (noQuote : '"' ∉ text) (guarded : Guarded rest) :
    Guarded (text ++ rest) := by
  intro before after same
  rcases List.append_eq_append_iff.mp same with ⟨middle, rfl, remains⟩ | ⟨middle, rfl, remains⟩
  · rcases guarded middle after remains with angle | bracket
    · exact .inl (List.mem_append_right _ angle)
    · exact .inr (List.mem_append_right _ bracket)
  · cases middle with
    | nil =>
        rcases guarded [] after remains.symm with angle | bracket
        · exact absurd angle (by simp)
        · exact absurd bracket (by simp)
    | cons first middle =>
        obtain rfl : '"' = first := (List.cons.inj remains).1
        exact absurd (List.mem_append_right before (List.mem_cons_self)) noQuote

theorem woven_run {text rest : Text} {tokens : List Token} (noQuote : '"' ∉ text)
    (guarded : '[' ∈ text → Guarded rest) (further : Woven tokens rest) :
    Woven tokens (text ++ rest) := by
  induction text with
  | nil => exact further
  | cons char text induction =>
      simp only [List.mem_cons, not_or] at noQuote
      refine .inert (Ne.symm noQuote.1) ?_ ?_
      · rintro rfl
        exact guarded_append noQuote.2 (guarded List.mem_cons_self)
      · exact induction noQuote.2 fun bracket => guarded (List.mem_cons_of_mem _ bracket)

theorem shown_of_mem {text : Text} {char : Char} (visible : isBlank char = false)
    (member : char ∈ unescape text) : Shown text := by
  intro empty
  have inside := Text.mem_trim member visible
  rw [empty] at inside
  exact absurd inside (by simp)

theorem shown_cons {char : Char} (visible : isBlank char = false) (plain : char ≠ '&')
    (text : Text) : Shown (char :: text) := by
  apply shown_of_mem visible
  rw [Text.unescape_cons_plain plain]
  exact List.mem_cons_self

theorem covers_cons {char : Char} (visible : isBlank char = false) (plain : char ≠ '&')
    (noQuote : char ≠ '"') (rest : Text) : Covers (char :: rest) := by
  intro gap after same free
  cases gap with
  | nil => exact absurd (List.cons.inj same).1 noQuote
  | cons first gap =>
      obtain rfl : char = first := (List.cons.inj same).1
      exact shown_cons visible plain gap

theorem covers_spaced {char : Char} (visible : isBlank char = false) (plain : char ≠ '&')
    (noQuote : char ≠ '"') (rest : Text) : Covers (' ' :: char :: rest) := by
  intro gap after same free
  cases gap with
  | nil => exact absurd (List.cons.inj same).1 (by decide)
  | cons first gap =>
      obtain ⟨rfl, remains⟩ := List.cons.inj same
      have shown := covers_cons visible plain noQuote rest gap after remains
        fun member => free (List.mem_cons_of_mem _ member)
      rw [Shown, Text.unescape_cons_plain (by decide)]
      simpa [Shown, Text.trim, Text.trimStart, show isBlank ' ' = true by decide] using shown

/-! ## Names and texts -/

theorem name_char_cases {char : Char} (letter : isNameChar char = true) :
    isBlank char = false ∧ char ≠ '&' ∧ Marker.bounds char = false := by
  have code : 48 ≤ char.toNat ∧ char.toNat < 123 ∧ char.toNat ≠ 91 ∧ char.toNat ≠ 60 ∧
      char.toNat ≠ 62 := by
    simp only [isNameChar, Text.isAsciiLetter, Text.isAsciiDigit, Bool.or_eq_true, Bool.and_eq_true,
      decide_eq_true_eq, Char.le_def, UInt32.le_iff_toNat_le] at letter
    rcases letter with (small | capital) | digit
    · change 97 ≤ char.toNat ∧ char.toNat ≤ 122 at small
      omega
    · change 65 ≤ char.toNat ∧ char.toNat ≤ 90 at capital
      omega
    · change 48 ≤ char.toNat ∧ char.toNat ≤ 57 at digit
      omega
  have different (other : Char) (apart : char.toNat ≠ other.toNat) : char ≠ other := by
    rintro rfl
    exact apart rfl
  refine ⟨?_, different '&' ?_, ?_⟩
  · exact Text.visible_of_code (by omega) (by omega)
  · change char.toNat ≠ 38
    omega
  · have quote : char ≠ '"' := different '"' (by change char.toNat ≠ 34; omega)
    have less : char ≠ '<' := different '<' (by change char.toNat ≠ 60; omega)
    have greater : char ≠ '>' := different '>' (by change char.toNat ≠ 62; omega)
    have bracket : char ≠ '[' := different '[' (by change char.toNat ≠ 91; omega)
    simp [Marker.bounds, quote, less, greater, bracket]

theorem bound_not_mem_name_text {char : Char} (bound : Marker.bounds char = true) (name : Name) :
    char ∉ name.text := by
  intro member
  have plain := (name_char_cases (name.forall_char char member)).2.2
  rw [bound] at plain
  exact absurd plain (by decide)

theorem bound_not_mem_attribute {char : Char} (bound : Marker.bounds char = true) (name : Name) :
    char ∉ ' ' :: (name.text ++ ['=']) := by
  have others : char ≠ ' ' ∧ char ≠ '=' := by
    constructor
    all_goals
      rintro rfl
      exact absurd bound (by decide)
  simp [others, bound_not_mem_name_text bound]

theorem attributes_text_cons (name : Name) (value : Text) (attributes : List (Name × Text))
    (rest : Text) : attributesText (named ((name, value) :: attributes)) ++ rest =
      (' ' :: (name.text ++ ['='])) ++ '"' :: (escapeAttribute value ++
        '"' :: (attributesText (named attributes) ++ rest)) := by
  simp [named, attributesText, attributeText]

/-- Escaped text is free of the characters that bound tags and attribute values. -/
theorem escape_free {char : Char} (bound : char = '"' ∨ char = '<' ∨ char = '>') (text : Text) :
    char ∉ escape text := by
  intro member
  obtain ⟨other, _, written⟩ := List.mem_flatMap.mp member
  unfold Text.escapeChar at written
  split_ifs at written with ampersand less greater quote apostrophe
  case neg =>
    obtain rfl := List.mem_singleton.mp written
    simp [less, greater, quote] at bound
  all_goals
    rcases bound with rfl | rfl | rfl
    all_goals exact absurd written (by decide)

/-! ## Tags -/

theorem bound_not_mem_flags {char : Char} (bound : Marker.bounds char = true) (flags : List Name) :
    char ∉ flagsText (flags.map Name.text) := by
  have blank : char ≠ ' ' := by
    rintro rfl
    exact absurd bound (by decide)
  simp [flagsText, blank, bound_not_mem_name_text bound]

theorem name_first (name : Name) :
    ∃ first tail, name.text = first :: tail ∧ isNameChar first = true := by
  cases text : name.text with
  | nil => exact absurd text name.not_empty
  | cons first tail => exact ⟨first, tail, rfl, name.forall_char first (by simp [text])⟩

theorem covers_name (name : Name) (rest : Text) : Covers (' ' :: (name.text ++ rest)) := by
  obtain ⟨first, tail, text, letter⟩ := name_first name
  obtain ⟨visible, plain, free⟩ := name_char_cases letter
  have noQuote : first ≠ '"' := by
    rintro rfl
    exact absurd free (by decide)
  rw [text]
  exact covers_spaced visible plain noQuote (tail ++ rest)

theorem covers_flags (flags : List Name) {rest : Text} (covers : Covers rest) :
    Covers (flagsText (flags.map Name.text) ++ rest) := by
  cases flags with
  | nil => exact covers
  | cons flag flags =>
      simpa [flagsText] using covers_name flag (flagsText (flags.map Name.text) ++ rest)

theorem woven_attributes (attributes : List (Name × Text)) {rest : Text} {tokens : List Token}
    (covers : Covers rest) (further : Woven tokens rest) :
    Woven (valueTokens attributes ++ tokens) (attributesText (named attributes) ++ rest) ∧
      Covers (attributesText (named attributes) ++ rest) := by
  induction attributes with
  | nil => exact ⟨further, covers⟩
  | cons pair attributes induction =>
      obtain ⟨name, value⟩ := pair
      rw [attributes_text_cons]
      constructor
      · apply woven_run (bound_not_mem_attribute (by decide) name)
        · intro bracket
          exact absurd bracket (bound_not_mem_attribute (by decide) name)
        · exact .value value induction.2 induction.1
      · rw [List.cons_append, List.append_assoc]
        exact covers_name name _

/-- The opening tag of an element, or a void element, in front of a text. -/
theorem woven_tag (tag : Name) (attributes : List (Name × Text)) (flags : List Name)
    {ending rest : Text} {tokens : List Token} (free : '"' ∉ ending ∧ '[' ∉ ending)
    (covers : Covers (ending ++ rest)) (further : Woven tokens rest) :
    Woven (valueTokens attributes ++ tokens)
      ('<' :: (tag.text ++ (attributesText (named attributes) ++
        (flagsText (flags.map Name.text) ++ (ending ++ rest))))) := by
  have ended : Woven tokens (ending ++ rest) :=
    woven_run free.1 (fun bracket => absurd bracket free.2) further
  have flagged : Woven tokens (flagsText (flags.map Name.text) ++ (ending ++ rest)) :=
    woven_run (bound_not_mem_flags (by decide) flags)
      (fun bracket => absurd bracket (bound_not_mem_flags (by decide) flags)) ended
  have attributed := (woven_attributes attributes (covers_flags flags covers) flagged).1
  refine .inert (by decide) (fun bracket => absurd bracket (by decide)) ?_
  exact woven_run (bound_not_mem_name_text (by decide) tag)
    (fun bracket => absurd bracket (bound_not_mem_name_text (by decide) tag)) attributed

theorem void_element_eq (tag : Text) (attributes : List (Text × Text)) (flags : List Text)
    (rest : Text) : voidElement tag attributes flags ++ rest =
      '<' :: (tag ++ (attributesText attributes ++ (flagsText flags ++ (" />".toList ++ rest)))) := by
  simp [voidElement]

theorem flagged_element_eq (tag : Text) (attributes : List (Text × Text)) (flags : List Text)
    (content rest : Text) : flaggedElement tag attributes flags content ++ rest =
      '<' :: (tag ++ (attributesText attributes ++ (flagsText flags ++ (['>'] ++
        (content ++ '<' :: '/' :: (tag ++ '>' :: rest)))))) := by
  delta flaggedElement
  simp

/-! ## Trees -/

mutual

theorem woven_item (item : Item) {rest : Text} {tokens : List Token} (guarded : Guarded rest)
    (further : Woven tokens rest) :
    Woven (item.tokens ++ tokens) (item.toText ++ rest) ∧ Guarded (item.toText ++ rest) := by
  cases item with
  | text raw =>
      have noQuote := @escape_free '"' (by decide) raw
      exact ⟨woven_run noQuote (fun _ => guarded) further, guarded_append noQuote guarded⟩
  | comment raw => exact ⟨.comment raw further, guarded_cons (.inl rfl) _⟩
  | marker given =>
      obtain ⟨inner, bracketed⟩ := Marker.to_text_bracketed given
      refine ⟨.marker given further, ?_⟩
      rw [Item.toText, bracketed]
      exact guarded_cons (.inr rfl) _
  | void tag attributes flags =>
      rw [Item.toText, void_element_eq]
      refine ⟨woven_tag tag attributes flags (by decide) ?_ further, guarded_cons (.inl rfl) _⟩
      exact covers_spaced (by decide) (by decide) (by decide) _
  | element tag attributes flags content =>
      rw [Item.toText, flagged_element_eq, Item.tokens, List.append_assoc]
      have free := @bound_not_mem_name_text '"' (by decide) tag
      have noBracket := @bound_not_mem_name_text '[' (by decide) tag
      have closed : Woven tokens ('<' :: '/' :: (tag.text ++ '>' :: rest)) := by
        have closing : Woven tokens (('<' :: '/' :: (tag.text ++ ['>'])) ++ rest) :=
          woven_run (by simp [free]) (fun bracket => absurd bracket (by simp [noBracket])) further
        simpa using closing
      have inside := woven_items content (guarded_cons (.inl rfl) _) closed
      refine ⟨woven_tag tag attributes flags (by decide) ?_ inside.1, guarded_cons (.inl rfl) _⟩
      exact covers_cons (by decide) (by decide) (by decide) _

theorem woven_items (items : List Item) {rest : Text} {tokens : List Token} (guarded : Guarded rest)
    (further : Woven tokens rest) :
    Woven (tokensOf items ++ tokens) (textOf items ++ rest) ∧ Guarded (textOf items ++ rest) := by
  cases items with
  | nil => exact ⟨further, guarded⟩
  | cons item items =>
      obtain ⟨others, guarded⟩ := woven_items items guarded further
      rw [textOf, tokensOf, List.append_assoc, List.append_assoc]
      exact woven_item item guarded others

end

/-- The tokens of a tree are woven into its text. -/
theorem woven_text (items : List Item) : Woven (tokensOf items) (textOf items) := by
  have woven := (woven_items items guarded_nil .none).1
  rwa [List.append_nil, List.append_nil] at woven

/-! ## Scanning a text without brackets in its values -/

/-- A token that opens no marker but its own. -/
def Token.Tame : Token → Prop
  | .value given => '[' ∉ given
  | .comment _ => False
  | .marker given => given.Writable

/-- An escaped value has no characters but its own and those of references. -/
theorem escape_attribute_free {char : Char} (foreign : char ∉ ("&amp;&quot;&#x27;" : Text))
    {value : Text} (free : char ∉ value) : char ∉ escapeAttribute value := by
  intro member
  obtain ⟨other, inside, written⟩ := List.mem_flatMap.mp member
  have reference (text : Text) (part : text ⊆ ("&amp;&quot;&#x27;" : Text)) : char ∉ text :=
    fun found => foreign (part found)
  unfold Text.escapeAttributeChar at written
  split_ifs at written with ampersand quote apostrophe
  · exact reference _ (by decide) written
  · exact reference _ (by decide) written
  · exact reference _ (by decide) written
  · rw [List.mem_singleton] at written
    exact free (written ▸ inside)

theorem escape_attribute_no_bracket {value : Text} (noBracket : '[' ∉ value) :
    '[' ∉ escapeAttribute value := escape_attribute_free (by decide) noBracket

theorem slots_inert {char : Char} {rest : Text} (guarded : char = '[' → Guarded rest) :
    Marker.slots (char :: rest) = .kept char :: Marker.slots rest := by
  by_cases bracket : char = '['
  · subst char
    exact Marker.slots_guarded (guarded rfl)
  · exact Marker.slots_unread (Marker.unread_of_not_bracket bracket rest)

/-- The scan finds the markers among the tokens as they were written, and nothing else. -/
theorem slots_woven {tokens : List Token} {text : Text} (woven : Woven tokens text)
    (tame : ∀ token ∈ tokens, token.Tame) :
    (Marker.slots text).filterMap Marker.Slot.marker? = tokens.filterMap Token.marker? ∧
      ∀ raw marker, .view raw marker ∈ Marker.slots text → raw = marker.toText := by
  induction woven with
  | none => exact ⟨rfl, fun raw marker member => absurd member List.not_mem_nil⟩
  | @inert char rest tokens plain guarded further induction =>
      obtain ⟨markers, canonical⟩ := induction tame
      rw [slots_inert guarded]
      refine ⟨markers, fun raw marker member => canonical raw marker ?_⟩
      simpa using member
  | @value given rest tokens covers further induction =>
      obtain ⟨markers, canonical⟩ := induction fun token member => tame token (List.mem_cons_of_mem _ member)
      have free : '[' ∉ '"' :: (escapeAttribute given ++ ['"']) := by
        have inside := escape_attribute_no_bracket (tame (.value given) List.mem_cons_self)
        simp [inside]
      have step : Marker.slots ('"' :: (escapeAttribute given ++ '"' :: rest)) =
          ('"' :: (escapeAttribute given ++ ['"'])).map .kept ++ Marker.slots rest := by
        rw [← Marker.slots_run free]
        simp
      rw [step]
      constructor
      · rw [List.filterMap_append, markers, Marker.kept_markers]
        rfl
      · intro raw marker member
        apply canonical raw marker
        simpa using member
  | comment raw further => exact (tame (.comment raw) List.mem_cons_self).elim
  | @marker given rest tokens further induction =>
      obtain ⟨markers, canonical⟩ := induction fun token member => tame token (List.mem_cons_of_mem _ member)
      have writable : given.Writable := tame (.marker given) List.mem_cons_self
      have step : Marker.slots (given.toText ++ rest) = .view given.toText given :: Marker.slots rest := by
        rw [Marker.slots_read (Marker.to_text_spelled writable.names_valid),
          writable.of_written_escaped]
        rfl
      rw [step]
      constructor
      · rw [List.filterMap_cons, markers]
        rfl
      · intro raw marker member
        rcases List.mem_cons.mp member with same | member
        · cases same
          rfl
        · exact canonical raw marker member

end RichText.Markup
