import RichText.Proofs.Markup.Composed
import RichText.Proofs.Markup.Exposed
import RichText.Proofs.Markup.WellFormed

/-!
Fragments that hold nothing but nested elements and texts, as the display stage writes them. Every
attribute value in them begins with a character that no marker goes on with behind an attribute. A marker
that opens in a value would take its id from the markup up to the next value, and could not be closed
there; so no such fragment holds a marker with an id, whatever its values are.
-/

namespace RichText.Markup

open Marker (Spelled SpelledAttributes readWritten? standing)
open Text (escapeAttribute escapeAttributeChar isBlank)

/-! ## Values that no marker goes on in -/

/-- Whether a character can stand in a marker right behind an attribute. -/
def goesOn (char : Char) : Bool := isBlank char || char = ']'

def startsFirm : Text → Bool
  | [] => false
  | first :: _ => !goesOn first

/-- An attribute value whose first character does not go on with a marker. -/
def Token.Firm : Token → Prop
  | .value given => startsFirm given = true
  | _ => False

theorem firm_no_marker {token : Token} (firm : token.Firm) : token.marker? = none := by
  cases token with
  | marker given => exact firm.elim
  | _ => rfl

theorem firm_written {given : Text} (firm : (Token.value given).Firm) (after : Text) :
    ∃ first rest, escapeAttribute given ++ after = first :: rest ∧ goesOn first = false := by
  cases given with
  | nil => exact absurd firm nofun
  | cons first rest =>
      have written : escapeAttribute (first :: rest) =
          escapeAttributeChar first ++ escapeAttribute rest := List.flatMap_cons
      rw [written, escapeAttributeChar]
      split_ifs
      case neg => exact ⟨first, _, rfl, by simpa [Token.Firm, startsFirm] using firm⟩
      all_goals exact ⟨'&', _, rfl, by decide⟩

theorem attributed_firm {attributes : List (Text × Text)}
    (all : (attributes.all fun (name, value) => isNameText name && startsFirm value) = true) :
    Attributed Token.Firm attributes := by
  intro pair member
  exact Bool.and_eq_true_iff.mp (List.all_eq_true.mp all pair member)

theorem spelled_goes_on {written : List (Text × Text)} {others blanks : Text}
    (spelled : SpelledAttributes written others) (blank : ∀ char ∈ blanks, isBlank char = true)
    (after : Text) : ∃ first rest, others ++ (blanks ++ ']' :: after) = first :: rest ∧
      goesOn first = true := by
  have onBlank {char : Char} (isBlank : Text.isBlank char = true) : goesOn char = true := by
    rw [goesOn, isBlank, Bool.true_or]
  cases spelled with
  | none =>
      cases blanks with
      | nil => exact ⟨']', after, rfl, by decide⟩
      | cons first blanks => exact ⟨first, _, rfl, onBlank (blank first List.mem_cons_self)⟩
  | @more gap name value written others present gapBlank named closed further =>
      cases gap with
      | nil => exact absurd rfl present
      | cons first gap => exact ⟨first, _, rfl, onBlank (gapBlank first List.mem_cons_self)⟩

/-! ## No marker in what is exposed -/

section Exposed

variable {tokens : List Token} (firm : ∀ token ∈ tokens, token.Firm)

include firm

/-- A marker that is read from inside of a value on has no attribute. -/
theorem read_in_value {body after : Text} {kind : Marker.Kind} {written : List (Text × Text)}
    (inside : '"' ∉ body)
    (read : readWritten? (body ++ '"' :: '>' :: tokens.flatMap Token.exposed) =
      some (kind, written, after)) :
    written = [] ∧ ∃ tail, after = tail ++ '"' :: '>' :: tokens.flatMap Token.exposed ∧
      '"' ∉ tail ∧ tail.length < body.length := by
  obtain ⟨raw, spelled, same⟩ := Marker.read_written_sound read
  obtain ⟨mark, attributes, blanks, joined, parts, blank, rfl⟩ := Marker.spelled_parts spelled
  have quote : Marker.bounds '"' = true := by decide
  have noQuoteInTag : '"' ∉ '[' :: Marker.tagOf mark kind := by
    simp [Marker.bound_not_mem_tag quote joined kind]
  cases parts with
  | none =>
      refine ⟨rfl, ?_⟩
      have regrouped : '[' :: (Marker.tagOf mark kind ++ ([] ++ (blanks ++ [']']))) ++ after =
          (('[' :: Marker.tagOf mark kind) ++ (blanks ++ [']'])) ++ after := by simp
      have outside : '"' ∉ ('[' :: Marker.tagOf mark kind) ++ (blanks ++ [']']) := by
        rw [List.mem_append, not_or]
        exact ⟨noQuoteInTag, by simp [Marker.bound_not_mem_blanks quote blank]⟩
      rw [regrouped] at same
      obtain ⟨tail, rfl, rfl⟩ := within outside same.symm
      refine ⟨tail, rfl, fun member => inside (List.mem_append_right _ member), ?_⟩
      simp only [List.length_append, List.length_cons]
      omega
  | @more gap name value written others present gapBlank named closed further =>
      exfalso
      -- The value of the attribute is the angle bracket between two values.
      have regrouped : '[' :: (Marker.tagOf mark kind ++
            (gap ++ (name ++ '=' :: '"' :: (value ++ '"' :: others)) ++ (blanks ++ [']']))) ++ after =
          (('[' :: Marker.tagOf mark kind) ++ (gap ++ (name ++ ['=']))) ++
            '"' :: (value ++ '"' :: (others ++ (blanks ++ ']' :: after))) := by simp
      have outside : '"' ∉ ('[' :: Marker.tagOf mark kind) ++ (gap ++ (name ++ ['='])) := by
        rw [List.mem_append, not_or]
        exact ⟨noQuoteInTag, Marker.bound_not_mem_opening quote gapBlank named⟩
      rw [regrouped] at same
      obtain ⟨-, remains⟩ := first_quote outside inside same.symm
      cases tokens with
      | nil =>
          have closing : '"' ∈ ['>'] := by
            rw [List.flatMap_nil] at remains
            rw [← remains]
            simp
          exact absurd closing (by decide)
      | cons token tokens =>
          have firmFirst := firm token List.mem_cons_self
          cases token with
          | value given =>
              have next : '>' :: (Token.value given :: tokens).flatMap Token.exposed = ['>'] ++
                  '"' :: (escapeAttribute given ++ '"' :: '>' :: tokens.flatMap Token.exposed) := by
                simp [Token.exposed]
              rw [next] at remains
              obtain ⟨-, behind⟩ := first_quote closed (by decide) remains
              obtain ⟨first, rest, goes, on⟩ := spelled_goes_on further blank after
              obtain ⟨start, _, stands, stays⟩ := firm_written firmFirst
                ('"' :: '>' :: tokens.flatMap Token.exposed)
              rw [goes, stands] at behind
              obtain rfl : first = start := (List.cons.inj behind).1
              rw [on] at stays
              exact absurd stays (by decide)
          | comment raw => exact firmFirst.elim
          | marker given => exact firmFirst.elim

theorem standing_in_value (none : standing (tokens.flatMap Token.exposed) = []) {body : Text}
    (inside : '"' ∉ body) : standing (body ++ '"' :: '>' :: tokens.flatMap Token.exposed) = [] := by
  induction size : body.length using Nat.strong_induction_on generalizing body with
  | _ size induction =>
      subst size
      cases read : readWritten? (body ++ '"' :: '>' :: tokens.flatMap Token.exposed) with
      | none =>
          cases body with
          | nil =>
              have closing := @standing_run ['"', '>'] (by decide) (tokens.flatMap Token.exposed)
              rw [none] at closing
              exact closing
          | cons char body =>
              rw [List.cons_append] at read ⊢
              rw [standing_unread read]
              exact induction body.length (by simp)
                (fun member => inside (List.mem_cons_of_mem _ member)) rfl
      | some reading =>
          obtain ⟨kind, written, after⟩ := reading
          obtain ⟨rfl, tail, rfl, free, shorter⟩ := read_in_value firm inside read
          rw [standing_read read, induction tail.length shorter free rfl]
          rfl

end Exposed

theorem standing_exposed_firm {tokens : List Token} (firm : ∀ token ∈ tokens, token.Firm) :
    standing (tokens.flatMap Token.exposed) = [] := by
  induction tokens with
  | nil => rfl
  | cons token tokens induction =>
      have later : ∀ token ∈ tokens, token.Firm :=
        fun token member => firm token (List.mem_cons_of_mem _ member)
      cases token with
      | value given =>
          have body := standing_in_value later (induction later)
            (Marker.escape_attribute_no_quote given)
          have opening := @standing_run ['"'] (by decide)
            (escapeAttribute given ++ '"' :: '>' :: tokens.flatMap Token.exposed)
          rw [body] at opening
          simpa [Token.exposed] using opening
      | comment raw => exact (firm _ List.mem_cons_self).elim
      | marker given => exact (firm _ List.mem_cons_self).elim

/-- A tree whose only tokens are firm values holds no marker with an id. -/
theorem standing_firm {items : List Item} (firm : ∀ token ∈ tokensOf items, token.Firm) :
    standing (textOf items) = [] := by
  have none : ∀ token ∈ tokensOf items, token.marker? = none :=
    fun token member => firm_no_marker (firm token member)
  rw [standing_exposed_iff items (List.filterMap_eq_nil_iff.mpr none), exposed_text items none]
  exact standing_exposed_firm firm

/-! ## The grammar -/

/-- What stands in a tag behind its name: attributes with quoted values, and the flag of inputs that have
to be filled in. -/
inductive TagWritten : Text → Prop
  | nil : TagWritten []
  | attribute {name value rest : Text} (valid : isNameText name = true) (inside : '"' ∉ value)
      (others : TagWritten rest) : TagWritten (" " ++ name ++ "=\"" ++ value ++ "\"" ++ rest)
  | required {rest : Text} (others : TagWritten rest) : TagWritten (" required" ++ rest)

/-- The elements that are written without a closing tag. -/
def voidTags : List Text := [("hr" : Text), "img", "input"]

inductive Nested : Text → Prop
  | nil : Nested []
  | text {raw rest : Text} (bare : ∀ char ∈ raw, char ≠ '<' ∧ char ≠ '>' ∧ char ≠ '"')
      (others : Nested rest) : Nested (raw ++ rest)
  | void {tag inside rest : Text} (known : tag ∈ voidTags) (written : TagWritten inside)
      (others : Nested rest) : Nested ("<" ++ tag ++ inside ++ " />" ++ rest)
  | element {tag inside content rest : Text} (valid : isNameText tag = true)
      (written : TagWritten inside) (within : Nested content) (others : Nested rest) :
      Nested ("<" ++ tag ++ inside ++ ">" ++ content ++ "</" ++ tag ++ ">" ++ rest)

mutual

/-- Void elements are known ones, and no flag is written but one. -/
def Item.Shaped : Item → Prop
  | .void tag _ flags => tag.text ∈ voidTags ∧ ∀ flag ∈ flags, flag.text = "required"
  | .element _ _ flags content =>
      (∀ flag ∈ flags, flag.text = "required") ∧ ShapedAmong content
  | _ => True

def ShapedAmong : List Item → Prop
  | [] => True
  | item :: items => item.Shaped ∧ ShapedAmong items

end

mutual

theorem shaped_of_plain (item : Item) (plain : item.Plain) : item.Shaped := by
  cases item with
  | void tag attributes flags =>
      obtain ⟨rfl, known⟩ := plain
      refine ⟨?_, fun flag member => absurd member List.not_mem_nil⟩
      rcases known with ⟨isRule, -⟩ | isImage
      · rw [isRule]
        decide
      · rw [isImage]
        decide
  | element tag attributes flags content =>
      obtain ⟨rfl, plain⟩ := plain
      exact ⟨fun flag member => absurd member List.not_mem_nil, shaped_among_of_plain content plain⟩
  | _ => trivial

theorem shaped_among_of_plain (items : List Item) (plain : PlainAmong items) :
    ShapedAmong items := by
  cases items with
  | nil => trivial
  | cons item items =>
      exact ⟨shaped_of_plain item plain.1, shaped_among_of_plain items plain.2⟩

end

theorem flags_written {flags : List Name} (known : ∀ flag ∈ flags, flag.text = "required") :
    TagWritten (flagsText (flags.map Name.text)) := by
  induction flags with
  | nil => exact .nil
  | cons flag flags induction =>
      have others := induction fun other member => known other (List.mem_cons_of_mem _ member)
      have written : flagsText ((flag :: flags).map Name.text) =
          " required" ++ flagsText (flags.map Name.text) := by
        rw [List.map_cons, known flag List.mem_cons_self]
        rfl
      rw [written]
      exact .required others

theorem tag_written (attributes : List (Name × Text)) {flags : List Name}
    (known : ∀ flag ∈ flags, flag.text = "required") :
    TagWritten (attributesText (named attributes) ++ flagsText (flags.map Name.text)) := by
  induction attributes with
  | nil => exact flags_written known
  | cons pair attributes induction =>
      obtain ⟨name, value⟩ := pair
      have written := TagWritten.attribute name.isName (Marker.escape_attribute_no_quote value) induction
      simpa [named, attributesText, attributeText] using written

mutual

theorem item_nested (item : Item) (shaped : item.Shaped) (firm : ∀ token ∈ item.tokens, token.Firm)
    {rest : Text} (others : Nested rest) : Nested (item.toText ++ rest) := by
  cases item with
  | text raw => exact .text (escape_bare raw) others
  | comment raw => exact (firm (.comment raw) (by simp [Item.tokens])).elim
  | marker given => exact (firm (.marker given) (by simp [Item.tokens])).elim
  | void tag attributes flags =>
      have whole := Nested.void shaped.1 (tag_written attributes shaped.2) others
      simpa [Item.toText, voidElement] using whole
  | element tag attributes flags content =>
      have within := items_nested content shaped.2
        fun token member => firm token (List.mem_append_right _ member)
      have whole := Nested.element tag.isName (tag_written attributes shaped.1) within others
      simpa [Item.toText, flaggedElement] using whole

theorem items_nested (items : List Item) (shaped : ShapedAmong items)
    (firm : ∀ token ∈ tokensOf items, token.Firm) : Nested (textOf items) := by
  cases items with
  | nil => exact .nil
  | cons item items =>
      have others := items_nested items shaped.2
        fun token member => firm token (List.mem_append_right _ member)
      exact item_nested item shaped.1
        (fun token member => firm token (List.mem_append_left _ member)) others

end

/-! ## Texts that are built of such items -/

/-- The text of shaped items, all of whose tokens are firm values. -/
def Built (text : Text) : Prop :=
  ∃ items, textOf items = text ∧ ShapedAmong items ∧ ∀ token ∈ tokensOf items, token.Firm

theorem built_of_composed {markers : List Marker} {text : Text}
    (composed : Composed Token.Firm markers text) : Built text := by
  obtain ⟨⟨items, plain⟩, same, -, firm⟩ := composed
  exact ⟨items, same, shaped_among_of_plain items plain, firm⟩

theorem shaped_among_append {first second : List Item} (before : ShapedAmong first)
    (after : ShapedAmong second) : ShapedAmong (first ++ second) := by
  induction first with
  | nil => exact after
  | cons item first induction => exact ⟨before.1, induction before.2⟩

theorem built_append {first second : Text} (one : Built first) (other : Built second) :
    Built (first ++ second) := by
  obtain ⟨items, rfl, shaped, firm⟩ := one
  obtain ⟨more, rfl, shapedMore, firmMore⟩ := other
  refine ⟨items ++ more, text_of_append items more, shaped_among_append shaped shapedMore, ?_⟩
  rw [tokens_of_append, List.forall_mem_append]
  exact ⟨firm, firmMore⟩

theorem built_void {tag : Text} {attributes : List (Text × Text)} (flags : List Name)
    (valid : isNameText tag = true) (known : tag ∈ voidTags)
    (flagged : ∀ flag ∈ flags, flag.text = "required")
    (attributed : Attributed Token.Firm attributes) :
    Built (voidElement tag attributes (flags.map Name.text)) := by
  obtain ⟨given, rfl, values⟩ := exists_named attributed
  refine ⟨[.void ⟨tag, valid⟩ given flags], text_of_singleton _, ⟨⟨known, flagged⟩, trivial⟩, ?_⟩
  rw [tokens_of_singleton]
  exact values

theorem built_flagged {tag content : Text} {attributes : List (Text × Text)} (flags : List Name)
    (valid : isNameText tag = true) (flagged : ∀ flag ∈ flags, flag.text = "required")
    (attributed : Attributed Token.Firm attributes) (inside : Built content) :
    Built (flaggedElement tag attributes (flags.map Name.text) content) := by
  obtain ⟨given, rfl, values⟩ := exists_named attributed
  obtain ⟨items, rfl, shaped, firm⟩ := inside
  refine ⟨[.element ⟨tag, valid⟩ given flags items], text_of_singleton _,
    ⟨⟨flagged, shaped⟩, trivial⟩, ?_⟩
  rw [tokens_of_singleton, Item.tokens, List.forall_mem_append]
  exact ⟨values, firm⟩

theorem built_element {tag content : Text} {attributes : List (Text × Text)}
    (valid : isNameText tag = true) (attributed : Attributed Token.Firm attributes)
    (inside : Built content) : Built (element tag attributes content) := by
  rw [element_eq]
  exact built_flagged [] valid (List.forall_mem_nil _) attributed inside

theorem built_nested {text : Text} (built : Built text) : Nested text := by
  obtain ⟨items, rfl, shaped, firm⟩ := built
  exact items_nested items shaped firm

theorem built_standing {text : Text} (built : Built text) : standing text = [] := by
  obtain ⟨items, rfl, -, firm⟩ := built
  exact standing_firm firm

end RichText.Markup
