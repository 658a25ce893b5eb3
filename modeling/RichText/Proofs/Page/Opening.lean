import RichText.Proofs.Page.Heading

/-!
Attribute values and the scan for headings. The scan does not know where a value ends; it passes over a
value as long as no heading opens in it, and over the tag of a link inside a heading as long as its
address does not end a tag.
-/

namespace RichText.Page.Heading

open Text (escapeAttribute escapeAttributeChar)

/-! ## Openings of headings -/

/-- Whether the text behind an angle bracket starts with the name of a heading. -/
def isHeadingName : Text → Bool
  | letter :: digit :: rest =>
      (letter = 'h' || letter = 'H') && '1' ≤ digit && digit ≤ '6' &&
        !(rest.head?.map Text.isWord).getD false
  | _ => false

def opensHeading : Text → Bool
  | [] => false
  | char :: rest => (char = '<' && isHeadingName rest) || opensHeading rest

/-- No heading opens in a text, not even at its end. -/
def Unopened (text : Text) : Prop := opensHeading text = false

instance : DecidablePred Unopened := fun text => inferInstanceAs (Decidable (opensHeading text = false))

section Names

variable {first second : Char} {rest : Text}

theorem no_name_of_first (notSmall : first ≠ 'h') (notLarge : first ≠ 'H') :
    isHeadingName (first :: rest) = false := by
  cases rest with
  | nil => rfl
  | cons digit rest => simp [isHeadingName, notSmall, notLarge]

theorem no_name_of_second (noLevel : ¬('1' ≤ second ∧ second ≤ '6')) :
    isHeadingName (first :: second :: rest) = false := by
  by_cases low : '1' ≤ second
  · have high : ¬second ≤ '6' := fun high => noLevel ⟨low, high⟩
    simp [isHeadingName, high]
  · simp [isHeadingName, low]

theorem read_of_no_name (other : isHeadingName rest = false) : read? ('<' :: rest) = none := by
  match rest with
  | [] => rfl
  | [letter] => rfl
  | letter :: digit :: more =>
      rw [isHeadingName] at other
      rw [read?]
      exact if_neg (by rw [other]; decide)

/-- Escaping keeps a character, or it puts a reference in the place of one that is in no name. -/
theorem escaped_cases (char : Char) : escapeAttributeChar char = [char] ∨
    (char ≠ 'h' ∧ char ≠ 'H') ∧ ¬('1' ≤ char ∧ char ≤ '6') ∧ Text.isWord char = false ∧
      ∃ more, escapeAttributeChar char = '&' :: more := by
  unfold escapeAttributeChar
  split_ifs with ampersand quote apostrophe
  · subst ampersand
    exact .inr ⟨by decide, by decide, by decide, _, rfl⟩
  · subst quote
    exact .inr ⟨by decide, by decide, by decide, _, rfl⟩
  · subst apostrophe
    exact .inr ⟨by decide, by decide, by decide, _, rfl⟩
  · exact .inl rfl

/-- What stands behind a name is a word character as before, also where the value ends. -/
theorem word_escaped (text rest : Text) :
    ((escapeAttribute text ++ '"' :: rest).head?.map Text.isWord).getD false =
      (text.head?.map Text.isWord).getD false := by
  cases text with
  | nil => exact (by decide : Text.isWord '"' = false)
  | cons char text =>
      rw [escapeAttribute, List.flatMap_cons]
      rcases escaped_cases char with same | ⟨-, -, noWord, more, same⟩
      · rw [same]
        rfl
      · rw [same]
        exact (by decide : Text.isWord '&' = false).trans noWord.symm

theorem name_escaped (text rest : Text) :
    isHeadingName (escapeAttribute text ++ '"' :: rest) = isHeadingName text := by
  cases text with
  | nil => exact no_name_of_first (by decide) (by decide)
  | cons letter text =>
      rw [escapeAttribute, List.flatMap_cons, ← escapeAttribute]
      rcases escaped_cases letter with same | ⟨⟨notSmall, notLarge⟩, -, -, more, same⟩
      · rw [same]
        cases text with
        | nil => exact no_name_of_second (by decide)
        | cons digit text =>
            rw [escapeAttribute, List.flatMap_cons, ← escapeAttribute]
            rcases escaped_cases digit with same | ⟨-, noLevel, -, more, same⟩
            · rw [same]
              change isHeadingName (letter :: digit :: (escapeAttribute text ++ '"' :: rest)) = _
              rw [isHeadingName, isHeadingName, word_escaped]
            · rw [same]
              have escaped : ¬('1' ≤ '&' ∧ '&' ≤ '6') := by decide
              exact (no_name_of_second escaped).trans (no_name_of_second noLevel).symm
      · rw [same]
        have escaped : '&' ≠ 'h' ∧ '&' ≠ 'H' := by decide
        exact (no_name_of_first escaped.1 escaped.2).trans (no_name_of_first notSmall notLarge).symm

end Names

/-! ## Attributes -/

theorem unopened_cons {char : Char} {text : Text} (unopened : Unopened (char :: text)) :
    (char = '<' → isHeadingName text = false) ∧ Unopened text := by
  rw [Unopened, opensHeading, Bool.or_eq_false_iff] at unopened
  refine ⟨?_, unopened.2⟩
  rintro rfl
  simpa using unopened.1

theorem unopened_plain {text : Text} (free : '<' ∉ text) : Unopened text := by
  induction text with
  | nil => rfl
  | cons char text induction =>
      have other := List.ne_of_not_mem_cons free
      have behind : opensHeading text = false := induction (List.not_mem_of_not_mem_cons free)
      rw [Unopened, opensHeading, behind]
      simp [other.symm]

theorem scanned_value {value : Text} (unopened : Unopened value) :
    Scanned (escapeAttribute value ++ "\"") [] := by
  induction value with
  | nil => exact scanned_plain (by decide)
  | cons char value induction =>
      obtain ⟨noName, others⟩ := unopened_cons unopened
      have further := induction others
      rw [escapeAttribute, List.flatMap_cons, ← escapeAttribute, List.append_assoc]
      by_cases opens : char = '<'
      · subst opens
        intro rest
        have name : isHeadingName (escapeAttribute value ++ '"' :: rest) = false :=
          (name_escaped value rest).trans (noName rfl)
        have behind : escapeAttributeChar '<' ++ (escapeAttribute value ++ "\"") ++ rest =
            '<' :: (escapeAttribute value ++ '"' :: rest) := by
          simp [escapeAttributeChar]
        have after := further rest
        rw [List.append_assoc] at after
        rw [behind, scan_skip (read_of_no_name name)]
        exact after
      · have free : '<' ∉ escapeAttributeChar char := by
          have escaped := @Markup.escape_attribute_free '<' (by decide) [char]
            (by simpa using Ne.symm opens)
          simpa [escapeAttribute] using escaped
        exact scanned_append (scanned_plain free) further

/-- Attributes whose values open no heading. -/
def AllUnopened (attributes : List (Text × Text)) : Prop :=
  ∀ pair ∈ attributes, '<' ∉ pair.1 ∧ Unopened pair.2

theorem scanned_attribute {name value : Text} (free : '<' ∉ name) (unopened : Unopened value) :
    Scanned (Marker.attributeText name value) [] := by
  have start : Scanned (name ++ "=\"") [] := by
    apply scanned_plain
    simp [free]
  have whole := scanned_append start (scanned_value unopened)
  rwa [← List.append_assoc] at whole

theorem scanned_attributes {attributes : List (Text × Text)} (unopened : AllUnopened attributes) :
    Scanned (Markup.attributesText attributes) [] := by
  induction attributes with
  | nil => exact scanned_nil
  | cons pair attributes induction =>
      obtain ⟨⟨free, value⟩, others⟩ := List.forall_mem_cons.mp unopened
      have space : Scanned " " [] := scanned_plain (by decide)
      have first := scanned_append space (scanned_attribute free value)
      exact scanned_append first (induction others)

theorem scanned_link {content url : Text} {headings : List Heading} (unopened : Unopened url)
    (newTab : Bool) (inside : Scanned content headings) :
    Scanned (Markup.link url content newTab) headings := by
  apply scanned_tagged (by decide) ?_ inside
  apply scanned_attributes
  have name : '<' ∉ ("href" : Text) := by decide
  have address : AllUnopened [(("href" : Text), url)] :=
    List.forall_mem_singleton.mpr ⟨name, unopened⟩
  have fixed : AllUnopened (if newTab then Markup.newTabAttributes else []) := by
    intro pair member
    have free : ∀ pair ∈ Markup.newTabAttributes, '<' ∉ pair.1 ∧ '<' ∉ pair.2 := by decide
    have known : pair ∈ Markup.newTabAttributes := by
      cases newTab
      · exact absurd member List.not_mem_nil
      · exact member
    exact ⟨(free pair known).1, unopened_plain (free pair known).2⟩
  intro pair member
  rcases List.mem_append.mp member with given | added
  · exact address pair given
  · exact fixed pair added

theorem scanned_marker {marker : Marker} (unopened : AllUnopened marker.written) :
    Scanned marker.toText [] := by
  have tag : '<' ∉ marker.kind.tag := by
    cases marker.kind
    all_goals decide
  have attributes (written : List (Text × Text)) (unopened : AllUnopened written) :
      ScannedAll (written.map fun pair => Marker.attributeText pair.1 pair.2) [] := by
    induction written with
    | nil => exact .nil
    | cons pair written induction =>
        obtain ⟨first, others⟩ := List.forall_mem_cons.mp unopened
        exact .cons (scanned_attribute first.1 first.2) (induction others)
  have parts := ScannedAll.cons (scanned_plain tag) (attributes marker.written unopened)
  have opening : Scanned "[" [] := scanned_plain (by decide)
  have closing : Scanned "]" [] := scanned_plain (by decide)
  exact scanned_append (scanned_append opening (scanned_join parts (by decide))) closing

/-! ## Links in headings -/

/-- Text with the tags of marks and links in it, and the same text without them. -/
inductive Linked : Text → Text → Prop
  | marked {content text : Text} (marked : Marked content text) : Linked content text
  | opening {body : Text} (noEnd : '>' ∉ body) : Linked ('<' :: body ++ ['"', '>']) []
  | append {first second text others : Text} (linked : Linked first text)
      (further : Linked second others) : Linked (first ++ second) (text ++ others)

/-- A tag ends behind a quote, so it is not the closing tag of a heading. -/
theorem enclosed_quoted {digit : Char} (noQuote : '"' ≠ digit) {body : Text} (noEnd : '>' ∉ body) :
    Enclosed digit (body ++ ['"', '>']) := by
  induction body with
  | nil => exact enclosed_plain digit (by decide)
  | cons char body induction =>
      simp only [List.mem_cons, not_or] at noEnd
      apply enclosed_cons ?_ (induction noEnd.2)
      intro rest
      unfold closes
      split
      · rename_i letter level after same
        -- The angle bracket at the end is the only one, and the quote stands in front of it.
        obtain ⟨-, same⟩ := List.cons.inj same
        match body, noEnd, same with
        | [], _, same => exact absurd (List.cons.inj same).1 (by decide)
        | [slash], _, same =>
            obtain rfl := (List.cons.inj (List.cons.inj same).2).1
            rfl
        | [slash, letter], _, same =>
            obtain rfl := (List.cons.inj (List.cons.inj (List.cons.inj same).2).2).1
            simp [noQuote]
        | [slash, letter, level], _, same =>
            have ends := (List.cons.inj (List.cons.inj (List.cons.inj (List.cons.inj same).2).2).2).1
            exact absurd ends (by decide)
        | slash :: letter :: level :: last :: more, noEnd, same =>
            have ends := (List.cons.inj (List.cons.inj (List.cons.inj (List.cons.inj same).2).2).2).1
            exact absurd (ends ▸ by simp) noEnd.2
      · rfl

section Linked

variable {content text : Text} (linked : Linked content text)

include linked

theorem enclosed_linked {digit : Char} (isLevel : '1' ≤ digit ∧ digit ≤ '6') :
    Enclosed digit content := by
  have noQuote : '"' ≠ digit := by
    rintro rfl
    exact absurd isLevel (by decide)
  induction linked with
  | marked marked => exact enclosed_marked digit marked
  | @opening body noEnd =>
      apply @enclosed_quoted digit noQuote ('<' :: body)
      simpa using noEnd
  | append linked further first second => exact enclosed_append first second

theorem drop_tags_linked (rest : Text) : Text.dropTags (content ++ rest) = text ++ Text.dropTags rest := by
  induction linked generalizing rest with
  | marked marked => exact drop_tags_marked marked rest
  | @opening body noEnd =>
      have free : '>' ∉ body ++ ['"'] := by simp [noEnd]
      have dropped := drop_tags_body free ['<'] rest
      rw [List.append_assoc] at dropped
      rw [List.append_assoc]
      exact dropped
  | append linked further first second =>
      rw [List.append_assoc, first, second, List.append_assoc]

end Linked

theorem linked_link {content text url : Text} (noEnd : '>' ∉ url) (newTab : Bool)
    (linked : Linked content text) : Linked (Markup.link url content newTab) text := by
  have escaped : '>' ∉ escapeAttribute url := Markup.escape_attribute_free (by decide) noEnd
  have opening : ∃ body, '>' ∉ body ∧
      Markup.link url content newTab = '<' :: body ++ ['"', '>'] ++ content ++ "</a>" := by
    cases newTab
    · refine ⟨"a href=\"" ++ escapeAttribute url, by simp [escaped], ?_⟩
      simp [Markup.link, Markup.element, Markup.attributesText, Markup.attributeText, Markup.optional]
    · refine ⟨"a href=\"" ++ escapeAttribute url ++ "\" target=\"_blank\" rel=\"noopener noreferrer",
        by simp [escaped], ?_⟩
      simp [Markup.link, Markup.element, Markup.attributesText, Markup.attributeText, Markup.optional,
        Markup.newTabAttributes, escapeAttribute, escapeAttributeChar]
  obtain ⟨body, noEnd, written⟩ := opening
  have closing : Linked "</a>" [] := .marked (.closing (show isOrdinary "a" = true by decide))
  have whole := ((Linked.opening noEnd).append linked).append closing
  rwa [List.nil_append, List.append_nil, ← written] at whole

/-- A heading with links in it is found again, whatever the addresses are. -/
theorem scanned_linked (level : HeadingLevel) {content text : Text} (named : Text)
    (linked : Linked content (Text.escape text)) :
    Scanned (Markup.heading level.number content (Text.slug named))
      (ofTexts? level.number named text).toList := by
  apply scanned_written level named fun digit isLevel => enclosed_linked linked isLevel
  have dropped := drop_tags_linked linked []
  have nothing : Text.dropTags [] = [] := rfl
  rwa [nothing, List.append_nil, List.append_nil] at dropped

end RichText.Page.Heading
