import RichText.Markup
import RichText.Page.Heading
import RichText.Proofs.Markup.Woven
import RichText.Proofs.Marker.RoundTrip
import RichText.Proofs.Text.Slug

/-!
What a scan for headings finds, piece by piece. Text and the tags of other elements are passed over. A
heading is read as it was written: its text is what the marks in it are around.
-/

namespace RichText.Page.Heading

/-! ## Pieces without a heading -/

/-- What a scan finds in a piece of a fragment, whatever follows. -/
def Scanned (text : Text) (headings : List Heading) : Prop :=
  ∀ rest, scan (text ++ rest) = (headings ++ ·) <$> scan rest

/-- A name of a tag that is not the one of a heading. -/
def isOrdinary (tag : Text) : Bool :=
  match tag with
  | first :: _ =>
      first ≠ 'h' && first ≠ 'H' && first ≠ '/' && !tag.contains '<' && !tag.contains '>'
  | [] => false

theorem ordinary_parts {tag : Text} (ordinary : isOrdinary tag = true) :
    ∃ first more, tag = first :: more ∧ first ≠ 'h' ∧ first ≠ 'H' ∧ first ≠ '/' ∧ '<' ∉ tag ∧
      '>' ∉ tag := by
  cases tag with
  | nil => exact absurd ordinary nofun
  | cons first more =>
      refine ⟨first, more, rfl, ?_⟩
      simpa only [isOrdinary, Bool.and_eq_true, decide_eq_true_eq, Bool.not_eq_true',
        List.contains_eq_mem, decide_eq_false_iff_not, and_assoc] using ordinary

theorem scanned_nil : Scanned [] [] := fun _ => (id_map _).symm

theorem scanned_append {first second : Text} {headings others : List Heading}
    (scanned : Scanned first headings) (further : Scanned second others) :
    Scanned (first ++ second) (headings ++ others) := by
  intro rest
  rw [List.append_assoc, scanned, further, Functor.map_map]
  simp only [List.append_assoc]

/-- What a scan finds in a whole fragment. -/
theorem scan_of_scanned {text : Text} {headings : List Heading} (scanned : Scanned text headings) :
    scan text = .ok headings := by
  have whole := scanned []
  rw [List.append_nil] at whole
  rw [whole]
  exact congrArg Except.ok (List.append_nil headings)

theorem scanned_unique {text : Text} {headings others : List Heading}
    (scanned : Scanned text headings) (further : Scanned text others) : headings = others :=
  Except.ok.inj ((scan_of_scanned scanned).symm.trans (scan_of_scanned further))

theorem scan_skip {char : Char} {rest : Text} (unread : read? (char :: rest) = none) :
    scan (char :: rest) = scan rest := by
  unfold scan
  rw [scanAfter, unread]

theorem read_of_other {char : Char} (other : char ≠ '<') (rest : Text) :
    read? (char :: rest) = none := by
  unfold read?
  split
  · rename_i same
    exact absurd (List.cons.inj same).1 other
  · rfl

theorem read_of_name {first : Char} (notSmall : first ≠ 'h') (notLarge : first ≠ 'H')
    (rest : Text) : read? ('<' :: first :: rest) = none := by
  cases rest with
  | nil => rfl
  | cons digit rest => simp [read?, notSmall, notLarge]

theorem scanned_plain {text : Text} (free : '<' ∉ text) : Scanned text [] := by
  intro rest
  induction text with
  | nil => exact scanned_nil rest
  | cons char text induction =>
      have other := List.ne_of_not_mem_cons free
      rw [List.cons_append, scan_skip (read_of_other other.symm _)]
      exact induction (List.not_mem_of_not_mem_cons free)

theorem scanned_tag {first : Char} {body : Text} (notSmall : first ≠ 'h') (notLarge : first ≠ 'H')
    (free : '<' ∉ first :: body) : Scanned ('<' :: first :: body) [] := by
  intro rest
  rw [List.cons_append, List.cons_append, scan_skip (read_of_name notSmall notLarge _)]
  exact scanned_plain free rest

theorem scanned_tagged {tag content : Text} {attributes : List (Text × Text)} {headings : List Heading}
    (ordinary : isOrdinary tag = true) (before : Scanned (Markup.attributesText attributes) [])
    (inside : Scanned content headings) : Scanned (Markup.element tag attributes content) headings := by
  obtain ⟨first, more, rfl, notSmall, notLarge, -, noBracket, -⟩ := ordinary_parts ordinary
  have opening : Scanned ('<' :: first :: more) [] := scanned_tag notSmall notLarge noBracket
  have ends : Scanned [('>' : Char)] [] := scanned_plain (by decide)
  have closing : Scanned ('<' :: '/' :: (first :: more ++ [('>' : Char)])) [] := by
    apply scanned_tag (by decide) (by decide)
    simp only [List.mem_cons, not_or] at noBracket
    simp [noBracket]
  have whole := scanned_append (scanned_append opening before)
    (scanned_append ends (scanned_append inside closing))
  rw [List.nil_append, List.nil_append, List.nil_append, List.append_nil] at whole
  have written : Markup.element (first :: more) attributes content =
      '<' :: first :: more ++ Markup.attributesText attributes ++
        ([('>' : Char)] ++ (content ++ '<' :: '/' :: (first :: more ++ [('>' : Char)]))) := by
    simp [Markup.element]
  rwa [written]

theorem scanned_element {tag content : Text} {attributes : List (Text × Text)}
    {headings : List Heading} (ordinary : isOrdinary tag = true)
    (free : '<' ∉ Markup.attributesText attributes) (inside : Scanned content headings) :
    Scanned (Markup.element tag attributes content) headings :=
  scanned_tagged ordinary (scanned_plain free) inside

theorem scanned_rule : Scanned Markup.rule [] := by
  intro rest
  have unread : read? (Markup.rule ++ rest) = none := rfl
  have body : Scanned ("hr />" : Text) [] := scanned_plain (by decide)
  exact (scan_skip unread).trans (body rest)

/-- Texts in a row, with what a scan finds in them together. -/
inductive ScannedAll : List Text → List Heading → Prop
  | nil : ScannedAll [] []
  | cons {text : Text} {texts : List Text} {headings others : List Heading}
      (first : Scanned text headings) (further : ScannedAll texts others) :
      ScannedAll (text :: texts) (headings ++ others)

section ScannedAll

variable {texts : List Text} {headings : List Heading} (all : ScannedAll texts headings)

include all

theorem scanned_flatten : Scanned texts.flatten headings := by
  induction all with
  | nil => exact scanned_nil
  | cons first further induction => exact scanned_append first induction

theorem scanned_join {separator : Text} (free : '<' ∉ separator) :
    Scanned (Text.join separator texts) headings := by
  induction all with
  | nil => exact scanned_nil
  | @cons text texts headings others first further induction =>
      cases texts with
      | nil =>
          cases further
          rw [List.append_nil, Text.join, List.intercalate_singleton]
          exact first
      | cons second texts =>
          rw [Text.join, List.intercalate_cons_cons, ← Text.join, List.append_assoc]
          exact scanned_append first (scanned_append (scanned_plain free) induction)

theorem scanned_filter : ScannedAll (texts.filter fun text => !text.isEmpty) headings := by
  induction all with
  | nil => exact .nil
  | @cons text texts headings others first further induction =>
      by_cases empty : text = []
      · obtain rfl := scanned_unique first (empty ▸ scanned_nil)
        rw [List.filter_cons_of_neg (by simp [empty])]
        exact induction
      · rw [List.filter_cons_of_pos (by simp [empty])]
        exact .cons first induction

end ScannedAll

/-! ## Marked text -/

/-- Text with the tags of marks in it, and the same text without them. -/
inductive Marked : Text → Text → Prop
  | plain {text : Text} (free : '<' ∉ text) : Marked text text
  | opening {tag : Text} (ordinary : isOrdinary tag = true) : Marked ('<' :: tag ++ [('>' : Char)]) []
  | closing {tag : Text} (ordinary : isOrdinary tag = true) :
      Marked ('<' :: '/' :: tag ++ [('>' : Char)]) []
  | append {first second text others : Text} (marked : Marked first text)
      (further : Marked second others) : Marked (first ++ second) (text ++ others)

theorem scanned_marked {content text : Text} (marked : Marked content text) :
    Scanned content [] := by
  induction marked with
  | plain free => exact scanned_plain free
  | opening ordinary =>
      obtain ⟨first, more, rfl, notSmall, notLarge, -, noBracket, -⟩ := ordinary_parts ordinary
      apply scanned_tag notSmall notLarge
      simpa using noBracket
  | closing ordinary =>
      obtain ⟨first, more, rfl, -, -, -, noBracket, -⟩ := ordinary_parts ordinary
      apply scanned_tag (by decide) (by decide)
      simpa using noBracket
  | append marked further first second => exact scanned_append first second

theorem drop_tags_plain {text : Text} (free : '<' ∉ text) (rest : Text) :
    Text.dropTags (text ++ rest) = text ++ Text.dropTags rest := by
  induction text with
  | nil => rfl
  | cons char text induction =>
      have other := List.ne_of_not_mem_cons free
      have kept (rest : Text) : Text.dropTags (char :: rest) = char :: Text.dropTags rest := by
        unfold Text.dropTags
        rw [Text.dropTagsFrom]
        exact fun same => other same.symm
      rw [List.cons_append, kept, induction (List.not_mem_of_not_mem_cons free)]
      rfl

theorem drop_tags_body {body : Text} (free : '>' ∉ body) (opened rest : Text) :
    Text.dropTagsFrom (some opened) (body ++ '>' :: rest) = Text.dropTags rest := by
  induction body generalizing opened with
  | nil => rfl
  | cons char body induction =>
      have other := List.ne_of_not_mem_cons free
      have kept : Text.dropTagsFrom (some opened) (char :: (body ++ '>' :: rest)) =
          Text.dropTagsFrom (some (char :: opened)) (body ++ '>' :: rest) := by
        rw [Text.dropTagsFrom]
        exact fun same => other same.symm
      rw [List.cons_append, kept, induction (List.not_mem_of_not_mem_cons free)]

theorem drop_tags_marked {content text : Text} (marked : Marked content text) (rest : Text) :
    Text.dropTags (content ++ rest) = text ++ Text.dropTags rest := by
  induction marked generalizing rest with
  | plain free => exact drop_tags_plain free rest
  | @opening tag ordinary =>
      obtain ⟨-, -, -, -, -, -, -, noEnd⟩ := ordinary_parts ordinary
      have body := drop_tags_body noEnd ['<'] rest
      rw [List.append_assoc]
      exact body
  | @closing tag ordinary =>
      obtain ⟨-, -, -, -, -, -, -, noEnd⟩ := ordinary_parts ordinary
      have body := drop_tags_body noEnd ['/', '<'] rest
      rw [List.append_assoc]
      exact body
  | append marked further first second =>
      rw [List.append_assoc, first, second, List.append_assoc]

/-! ## The end of a heading -/

/-- Text that goes on to the closing tag behind it. -/
def Enclosed (digit : Char) (text : Text) : Prop :=
  ∀ rest, inner? digit (text ++ rest) = (inner? digit rest).map (text ++ ·)

theorem inner_skip {digit char : Char} {rest : Text} (goesOn : closes digit (char :: rest) = false) :
    inner? digit (char :: rest) = (inner? digit rest).map (char :: ·) := by
  rw [inner?, goesOn]
  rfl

theorem enclosed_cons {digit char : Char} {text : Text}
    (goesOn : ∀ rest, closes digit (char :: (text ++ rest)) = false) (enclosed : Enclosed digit text) :
    Enclosed digit (char :: text) := by
  intro rest
  rw [List.cons_append, inner_skip (goesOn rest), enclosed rest, Option.map_map]
  rfl

theorem enclosed_append {digit : Char} {first second : Text} (enclosed : Enclosed digit first)
    (further : Enclosed digit second) : Enclosed digit (first ++ second) := by
  intro rest
  rw [List.append_assoc, enclosed, further, Option.map_map]
  congr 1
  funext inner
  exact (List.append_assoc _ _ _).symm

theorem enclosed_plain (digit : Char) {text : Text} (free : '<' ∉ text) : Enclosed digit text := by
  induction text with
  | nil =>
      intro rest
      exact Option.map_id'.symm
  | cons char text induction =>
      apply enclosed_cons ?_ (induction (List.not_mem_of_not_mem_cons free))
      intro rest
      have other := List.ne_of_not_mem_cons free
      unfold closes
      split
      · rename_i same
        exact absurd (List.cons.inj same).1.symm other
      · rfl

theorem enclosed_marked (digit : Char) {content text : Text} (marked : Marked content text) :
    Enclosed digit content := by
  induction marked with
  | plain free => exact enclosed_plain digit free
  | opening ordinary =>
      obtain ⟨first, more, rfl, -, -, notSlash, noBracket, -⟩ := ordinary_parts ordinary
      apply enclosed_cons
      · intro rest
        unfold closes
        split
        · rename_i same
          exact absurd (List.cons.inj (List.cons.inj same).2).1 notSlash
        · rfl
      · apply enclosed_plain
        simpa using noBracket
  | closing ordinary =>
      obtain ⟨first, more, rfl, notSmall, notLarge, -, noBracket, -⟩ := ordinary_parts ordinary
      apply enclosed_cons
      · intro rest
        unfold closes
        split
        · rename_i same
          obtain rfl := (List.cons.inj (List.cons.inj (List.cons.inj same).2).2).1
          simp [notSmall, notLarge]
        · rfl
      · apply enclosed_plain
        simpa using noBracket
  | append marked further first second => exact enclosed_append first second

/-! ## Headings -/

theorem level_digit (level : HeadingLevel) : ∃ digit : Char,
    Text.ofInt level.number = [digit] ∧ ('1' ≤ digit ∧ digit ≤ '6') ∧
      digit.toNat - '0'.toNat = level.number := by
  obtain ⟨number, isLevel⟩ := level
  have cases : number = 1 ∨ number = 2 ∨ number = 3 ∨ number = 4 ∨ number = 5 ∨ number = 6 := by
    omega
  refine ⟨Nat.digitChar number, ?_⟩
  change Text.ofInt number = [Nat.digitChar number] ∧ _ ∧ _ = number
  clear isLevel
  rcases cases with rfl | rfl | rfl | rfl | rfl | rfl
  all_goals decide

theorem scan_after_passed (passed rest : Text) : scanAfter passed.length (passed ++ rest) = scan rest := by
  induction passed with
  | nil => rfl
  | cons char passed induction => exact induction

/-- A heading that is read takes all of its text, and the scan goes on behind it. -/
theorem scan_read {char : Char} {text rest attributes inner : Text} {level : Nat}
    (read : read? (char :: (text ++ rest)) = some (level, attributes, inner, text.length + 1)) :
    scan (char :: (text ++ rest)) = do
      let heading ← ofParts level attributes inner
      let others ← scan rest
      return heading.toList ++ others := by
  rw [scan, scanAfter, read]
  simp only [Nat.add_sub_cancel, scan_after_passed]

theorem inner_closed {digit : Char} {content : Text} (enclosed : Enclosed digit content) (rest : Text) :
    inner? digit (content ++ '<' :: '/' :: 'h' :: digit :: '>' :: rest) = some content := by
  rw [enclosed]
  have here : closes digit ('<' :: '/' :: 'h' :: digit :: '>' :: rest) = true := by
    simp [closes]
  rw [inner?, here]
  simp

theorem read_written {digit : Char} (isLevel : '1' ≤ digit ∧ digit ≤ '6') {attributes content : Text}
    (free : '>' ∉ attributes) (enclosed : Enclosed digit content) (rest : Text) :
    read? ('<' :: 'h' :: digit :: (' ' :: attributes ++ '>' :: (content ++
      '<' :: '/' :: 'h' :: digit :: '>' :: rest))) =
      some (digit.toNat - '0'.toNat, ' ' :: attributes, content,
        3 + (' ' :: attributes).length + 1 + content.length + 5) := by
  have word : Text.isWord ' ' = false := by decide
  have inTag : '>' ∉ ' ' :: attributes := by
    rintro (_ | ⟨_, inside⟩)
    exact free inside
  have inner := inner_closed enclosed rest
  generalize content ++ '<' :: '/' :: 'h' :: digit :: '>' :: rest = behind at inner ⊢
  have attributesOf := @Text.take_until _ behind '>' inTag
  have contentOf := @Text.drop_until _ behind '>' inTag
  have isHeading : ((decide ('h' = 'h') || decide ('h' = 'H')) && decide ('1' ≤ digit) &&
      decide (digit ≤ '6') && !(((' ' :: attributes ++ '>' :: behind).head?.map Text.isWord).getD
        false)) = true := by
    simp [isLevel, word]
  rw [read?]
  apply (if_pos isHeading).trans
  rw [contentOf, attributesOf]
  simp only [inner, Option.map_some]

theorem id_in_anchor {anchor : Text} (noQuote : '"' ∉ anchor) :
    idIn? false (" id=\"" ++ anchor ++ "\"") = some anchor := by
  have valueOf := @Text.take_until anchor [] '"' noQuote
  have word : Text.isWord ' ' = false := by decide
  change idIn? (Text.isWord ' ') ('i' :: 'd' :: '=' :: '"' :: (anchor ++ ['"'])) = some anchor
  have ends : (anchor ++ ['"']).contains '"' = true := by simp
  rw [word, idIn?]
  simp only [ends, Bool.not_false, Bool.true_and, if_true, valueOf]

/-- The heading with a text, unless it is blank. -/
def ofText? (level : Nat) (text : Text) : Option Heading :=
  if (Text.trim text).isEmpty then none else some ⟨level, Text.slug text, Text.trim text⟩

/-- The heading with a text whose anchor comes from another text, unless it is blank. -/
def ofTexts? (level : Nat) (named text : Text) : Option Heading :=
  if (Text.trim text).isEmpty then none else some ⟨level, Text.slug named, Text.trim text⟩

/-- The anchor of a heading in its tag, after a space. -/
def anchorText (text : Text) : Text :=
  "id=\"" ++ Text.escapeAttribute (Text.slug text) ++ "\""

theorem anchor_no_end (text : Text) : '>' ∉ anchorText text := by
  have noEnd : '>' ∉ Text.escapeAttribute (Text.slug text) :=
    Markup.escape_attribute_free (by decide) (Text.slug_free (by decide) (by decide) _ text)
  simp [anchorText, noEnd]

theorem of_parts_written (level : Nat) {content text : Text} (named : Text)
    (shown : Text.dropTags content = Text.escape text) :
    ofParts level (' ' :: anchorText named) content = .ok (ofTexts? level named text) := by
  have inner : Text.ofMarkup content = .ok text := by
    rw [Text.ofMarkup, shown, Text.unescaped_of_nondecimal (Text.nondecimal_of_finished (Text.escape_finished text)),
      Text.unescape_escaped]
  have anchor : Text.unescaped (Text.escapeAttribute (Text.slug named)) = .ok (Text.slug named) := by
    rw [Text.unescaped_of_nondecimal (Text.nondecimal_of_finished (Text.escape_attribute_finished _)),
      Text.unescape_escaped_attribute]
  have found : idIn? false (' ' :: anchorText named) =
      some (Text.escapeAttribute (Text.slug named)) :=
    id_in_anchor (Marker.escape_attribute_no_quote _)
  have anchored : anchorOf (' ' :: anchorText named) (Text.trim text) = .ok (Text.slug named) := by
    rw [anchorOf, found]
    exact anchor
  rw [ofParts, inner]
  change anchorOf (' ' :: anchorText named) (Text.trim text) >>= _ = _
  rw [anchored]
  rfl

/-- A heading is found again: its level, the slug in its tag as the anchor, and its text without the
tags in it. -/
theorem scanned_written (level : HeadingLevel) {content text : Text} (named : Text)
    (enclosed : ∀ digit, '1' ≤ digit ∧ digit ≤ '6' → Enclosed digit content)
    (shown : Text.dropTags content = Text.escape text) :
    Scanned (Markup.heading level.number content (Text.slug named))
      (ofTexts? level.number named text).toList := by
  intro rest
  obtain ⟨digit, digits, isLevel, number⟩ := level_digit level
  generalize body : 'h' :: digit :: (' ' :: anchorText named ++ '>' :: (content ++
    ['<', '/', 'h', digit, '>'])) = heading
  have written : Markup.heading level.number content (Text.slug named) = '<' :: heading := by
    rw [← body]
    simp [Markup.heading, Markup.element, Markup.attributesText, Markup.attributeText,
      Markup.optional, anchorText, digits]
  have read : read? ('<' :: (heading ++ rest)) =
      some (level.number, ' ' :: anchorText named, content, heading.length + 1) := by
    have whole := read_written isLevel (anchor_no_end named) (enclosed digit isLevel) rest
    have behind : heading ++ rest = 'h' :: digit :: (' ' :: anchorText named ++ '>' :: (content ++
        '<' :: '/' :: 'h' :: digit :: '>' :: rest)) := by
      rw [← body]
      simp
    have size : heading.length + 1 =
        3 + (' ' :: anchorText named).length + 1 + content.length + 5 := by
      rw [← body]
      simp only [List.length_cons, List.length_append, List.length_nil]
      omega
    rwa [behind, size, ← number]
  rw [written, List.cons_append, scan_read read, of_parts_written level.number named shown,
    map_eq_pure_bind]
  rfl

end RichText.Page.Heading
