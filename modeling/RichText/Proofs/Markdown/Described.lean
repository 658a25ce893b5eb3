import RichText.Markdown.TokenReader

/-!
Tokens described by mappings. A description holds the parts that its kind needs, and may hold others;
a kind that is not known needs none. The items of a list are its tokens of one kind, and the tokens
between them are passed over. The reader makes the described tokens of every description.
-/

namespace RichText.Markdown

namespace Token

/-- The kinds of inline tokens that have a counterpart. -/
def inlineKinds : List Text :=
  [("text" : Text), "strong", "emphasis", "codespan", "link", "softbreak", "linebreak"]

/-- The kinds of block tokens that have a counterpart, or are left out without notice. -/
def blockKinds : List Text :=
  [("paragraph" : Text), "block_text", "heading", "block_code", "list", "block_quote", "thematic_break",
    "blank_line"]

def IsOfKind (kind : Text) (entries : List (Value × Value)) : Prop :=
  Value.lookup "type" entries = some (.text kind)

def HasRaw (raw : Text) (entries : List (Value × Value)) : Prop :=
  Value.lookup "raw" entries = some (.text raw)

def HasChildren (values : List Value) (entries : List (Value × Value)) : Prop :=
  Value.lookup "children" entries = some (.list values)

/-- A part that stands among the attributes. -/
def HasAttribute (name : Text) (value : Value) (entries : List (Value × Value)) : Prop :=
  ∃ attributes, Value.lookup "attrs" entries = some (.map attributes) ∧
    Value.lookup name attributes = some value

mutual

inductive IsInline : Value → Inline → Prop
  | text {entries : List (Value × Value)} {raw : Text} (type : IsOfKind "text" entries)
      (part : HasRaw raw entries) : IsInline (.map entries) (.text raw)
  | strong {entries : List (Value × Value)} {values : List Value} {content : List Inline}
      (type : IsOfKind "strong" entries) (children : HasChildren values entries)
      (each : AreInlines values content) : IsInline (.map entries) (.strong content)
  | emphasis {entries : List (Value × Value)} {values : List Value} {content : List Inline}
      (type : IsOfKind "emphasis" entries) (children : HasChildren values entries)
      (each : AreInlines values content) : IsInline (.map entries) (.emphasis content)
  | code {entries : List (Value × Value)} {raw : Text} (type : IsOfKind "codespan" entries)
      (part : HasRaw raw entries) : IsInline (.map entries) (.code raw)
  | link {entries : List (Value × Value)} {values : List Value} {content : List Inline} {url : Text}
      (type : IsOfKind "link" entries) (children : HasChildren values entries)
      (each : AreInlines values content) (has : HasAttribute "url" (.text url) entries) :
      IsInline (.map entries) (.link url content)
  | softBreak {entries : List (Value × Value)} (type : IsOfKind "softbreak" entries) :
      IsInline (.map entries) .softBreak
  | hardBreak {entries : List (Value × Value)} (type : IsOfKind "linebreak" entries) :
      IsInline (.map entries) .hardBreak
  | other {entries : List (Value × Value)} {kind : Text} (type : IsOfKind kind entries)
      (unknown : kind ∉ inlineKinds) : IsInline (.map entries) (.other kind)

inductive AreInlines : List Value → List Inline → Prop
  | nil : AreInlines [] []
  | cons {value : Value} {values : List Value} {token : Inline} {tokens : List Inline}
      (first : IsInline value token) (rest : AreInlines values tokens) :
      AreInlines (value :: values) (token :: tokens)

end

mutual

inductive IsBlock : Value → Block → Prop
  | paragraph {entries : List (Value × Value)} {values : List Value} {content : List Inline}
      {kind : Text} (type : IsOfKind kind entries) (known : kind = "paragraph" ∨ kind = "block_text")
      (children : HasChildren values entries) (each : AreInlines values content) :
      IsBlock (.map entries) (.paragraph content)
  | heading {entries : List (Value × Value)} {values : List Value} {content : List Inline}
      {number : Value} {level : Int} (type : IsOfKind "heading" entries)
      (has : HasAttribute "level" number entries) (whole : number.whole = .ok level)
      (children : HasChildren values entries) (each : AreInlines values content) :
      IsBlock (.map entries) (.heading level content)
  | code {entries : List (Value × Value)} {raw : Text} (type : IsOfKind "block_code" entries)
      (part : HasRaw raw entries) : IsBlock (.map entries) (.code raw)
  | list {entries : List (Value × Value)} {values : List Value} {items : List (List Block)}
      {ordered : Value} (type : IsOfKind "list" entries) (children : HasChildren values entries)
      (each : AreItems values items) (has : HasAttribute "ordered" ordered entries) :
      IsBlock (.map entries) (.list ordered.isTruthy items)
  | quote {entries : List (Value × Value)} {values : List Value} {content : List Block}
      (type : IsOfKind "block_quote" entries) (children : HasChildren values entries)
      (each : AreBlocks values content) : IsBlock (.map entries) (.quote content)
  | rule {entries : List (Value × Value)} (type : IsOfKind "thematic_break" entries) :
      IsBlock (.map entries) .rule
  | blank {entries : List (Value × Value)} (type : IsOfKind "blank_line" entries) :
      IsBlock (.map entries) .blank
  | other {entries : List (Value × Value)} {kind : Text} (type : IsOfKind kind entries)
      (unknown : kind ∉ blockKinds) : IsBlock (.map entries) (.other kind)

inductive AreBlocks : List Value → List Block → Prop
  | nil : AreBlocks [] []
  | cons {value : Value} {values : List Value} {token : Block} {tokens : List Block}
      (first : IsBlock value token) (rest : AreBlocks values tokens) :
      AreBlocks (value :: values) (token :: tokens)

/-- The items of a list. What stands between them does not count. -/
inductive AreItems : List Value → List (List Block) → Prop
  | nil : AreItems [] []
  | item {entries : List (Value × Value)} {values others : List Value} {content : List Block}
      {items : List (List Block)} (type : IsOfKind "list_item" entries)
      (children : HasChildren values entries) (each : AreBlocks values content)
      (rest : AreItems others items) : AreItems (.map entries :: others) (content :: items)
  | between {entries : List (Value × Value)} {others : List Value} {items : List (List Block)}
      {kind : Text} (type : IsOfKind kind entries) (differs : kind ≠ "list_item")
      (rest : AreItems others items) : AreItems (.map entries :: others) items

end

/-! ## The parts of a description -/

section Parts

variable {entries : List (Value × Value)}

theorem type_of_kind {kind : Text} (type : IsOfKind kind entries) : typeName entries = .ok kind := by
  unfold typeName part
  rw [type]
  rfl

theorem raw_of_has {raw : Text} (has : HasRaw raw entries) : rawPart entries = .ok raw := by
  unfold rawPart part
  rw [has]
  cases raw with
  | nil => rfl
  | cons char rest => rfl

theorem code_of_has {raw : Text} (has : HasRaw raw entries) : codePart entries = .ok raw := by
  unfold codePart part
  rw [has]
  rfl

theorem attribute_of_has {name : Text} {value : Value} (has : HasAttribute name value entries) :
    attributePart name entries = .ok value := by
  obtain ⟨attributes, found, inside⟩ := has
  have outer : part "attrs" entries = .ok (.map attributes) := by
    rw [part, found]
    rfl
  have inner : part name attributes = .ok value := by
    rw [part, inside]
    rfl
  unfold attributePart
  rw [outer]
  exact inner

theorem level_of_has {number : Value} {level : Int} (has : HasAttribute "level" number entries)
    (whole : number.whole = .ok level) : levelPart entries = .ok level := by
  unfold levelPart
  rw [attribute_of_has has]
  exact congrArg (Except.mapError Fault.level) whole

/-- A reader of entries that looks no further than the children reads those. -/
theorem content_of_children {α : Type} {content : List (Value × Value) → α} {read : List Value → α}
    (here : ∀ values entries, content ((.text "children", .list values) :: entries) = read values)
    (named : ∀ (name : Text) value entries, name ≠ "children" →
      content ((.text name, value) :: entries) = content entries)
    (unnamed : ∀ (key : Value) value entries, (∀ name, key ≠ .text name) →
      content ((key, value) :: entries) = content entries)
    {values : List Value} (children : HasChildren values entries) : content entries = read values := by
  unfold HasChildren at children
  induction entries with
  | nil => exact absurd children nofun
  | cons entry entries induction =>
      obtain ⟨key, value⟩ := entry
      cases key with
      | text name =>
          by_cases found : name = "children"
          · subst found
            obtain rfl : value = .list values := Option.some.inj children
            exact here values entries
          · rw [Value.lookup, if_neg found] at children
            rw [named name value entries found, induction children]
      | _ =>
          rw [unnamed _ value entries (by simp)]
          exact induction children

section Children

variable {values : List Value} (children : HasChildren values entries)

include children

theorem inline_content_eq : inlineContent entries = inlinesOf values := by
  apply content_of_children (fun values entries => rfl) ?_ ?_ children
  · intro name value entries differs
    cases value <;> exact if_neg differs
  · intro key value entries unnamed
    cases key with
    | text name => exact absurd rfl (unnamed name)
    | _ => rfl

theorem block_content_eq : blockContent entries = blocksOf values := by
  apply content_of_children (fun values entries => rfl) ?_ ?_ children
  · intro name value entries differs
    cases value <;> exact if_neg differs
  · intro key value entries unnamed
    cases key with
    | text name => exact absurd rfl (unnamed name)
    | _ => rfl

theorem list_items_eq : listItems entries = itemsOf values := by
  apply content_of_children (fun values entries => rfl) ?_ ?_ children
  · intro name value entries differs
    cases value <;> exact if_neg differs
  · intro key value entries unnamed
    cases key with
    | text name => exact absurd rfl (unnamed name)
    | _ => rfl

end Children

end Parts

/-! ## Reading descriptions -/

section Unknown

variable {entries : List (Value × Value)} {kind : Text} (type : IsOfKind kind entries)

include type

theorem inline_of_unknown (unknown : kind ∉ inlineKinds) :
    inlineOf (.map entries) = ⟨[.other kind], none⟩ := by
  simp only [inlineKinds, List.mem_cons, not_or] at unknown
  obtain ⟨text, strong, emphasis, code, link, soft, hard, -⟩ := unknown
  rw [inlineOf, type_of_kind type]
  simp only [Partial.withPart, text, strong, emphasis, code, link, soft, hard, if_false]

theorem block_of_unknown (unknown : kind ∉ blockKinds) :
    blockOf (.map entries) = ⟨[.other kind], none⟩ := by
  simp only [blockKinds, List.mem_cons, not_or] at unknown
  obtain ⟨paragraph, text, heading, code, list, quote, rule, blank, -⟩ := unknown
  rw [blockOf, type_of_kind type]
  simp only [Partial.withPart, paragraph, text, heading, code, list, quote, rule, blank, if_false,
    decide_false, Bool.or_false, Bool.false_eq_true]

theorem block_of_paragraph (known : kind = "paragraph" ∨ kind = "block_text") :
    blockOf (.map entries) = (inlineContent entries).map fun content => [.paragraph content] := by
  rw [blockOf, type_of_kind type]
  rcases known with rfl | rfl
  · rfl
  · rfl

theorem item_of_other (other : kind ≠ "list_item") : itemOf (.map entries) = ⟨[], none⟩ := by
  rw [itemOf, type_of_kind type]
  exact if_neg other

end Unknown

mutual

theorem inline_of_described {value : Value} {token : Inline} :
    IsInline value token → inlineOf value = ⟨[token], none⟩
  | .text type part => by
      rw [inlineOf, type_of_kind type, raw_of_has part]
      rfl
  | .strong type children each => by
      rw [inlineOf, type_of_kind type, inline_content_eq children, inlines_of_described each]
      rfl
  | .emphasis type children each => by
      rw [inlineOf, type_of_kind type, inline_content_eq children, inlines_of_described each]
      rfl
  | .code type part => by
      rw [inlineOf, type_of_kind type, raw_of_has part]
      rfl
  | .link type children each has => by
      rw [inlineOf, type_of_kind type, inline_content_eq children, inlines_of_described each,
        attribute_of_has has]
      rfl
  | .softBreak type => by
      rw [inlineOf, type_of_kind type]
      rfl
  | .hardBreak type => by
      rw [inlineOf, type_of_kind type]
      rfl
  | .other type unknown => inline_of_unknown type unknown

theorem inlines_of_described {values : List Value} {tokens : List Inline} :
    AreInlines values tokens → inlinesOf values = ⟨tokens, none⟩
  | .nil => rfl
  | .cons first rest => by
      rw [inlinesOf, inline_of_described first, inlines_of_described rest]
      rfl

end

mutual

theorem block_of_described {value : Value} {token : Block} :
    IsBlock value token → blockOf value = ⟨[token], none⟩
  | .paragraph type known children each => by
      rw [block_of_paragraph type known, inline_content_eq children, inlines_of_described each]
      rfl
  | .heading type has whole children each => by
      rw [blockOf, type_of_kind type, inline_content_eq children, inlines_of_described each,
        level_of_has has whole]
      rfl
  | .code type part => by
      rw [blockOf, type_of_kind type, code_of_has part]
      rfl
  | .list type children each has => by
      rw [blockOf, type_of_kind type, list_items_eq children, items_of_described each,
        attribute_of_has has]
      rfl
  | .quote type children each => by
      rw [blockOf, type_of_kind type, block_content_eq children, blocks_of_described each]
      rfl
  | .rule type => by
      rw [blockOf, type_of_kind type]
      rfl
  | .blank type => by
      rw [blockOf, type_of_kind type]
      rfl
  | .other type unknown => block_of_unknown type unknown

theorem blocks_of_described {values : List Value} {tokens : List Block} :
    AreBlocks values tokens → blocksOf values = ⟨tokens, none⟩
  | .nil => rfl
  | .cons first rest => by
      rw [blocksOf, block_of_described first, blocks_of_described rest]
      rfl

theorem items_of_described {values : List Value} {items : List (List Block)} :
    AreItems values items → itemsOf values = ⟨items, none⟩
  | .nil => rfl
  | .item type children each rest => by
      rw [itemsOf, itemOf, type_of_kind type, block_content_eq children, blocks_of_described each,
        items_of_described rest]
      rfl
  | .between type differs rest => by
      rw [itemsOf, item_of_other type differs, items_of_described rest]
      rfl

end

/-- Described tokens have the nodes that they stand for, without a fault. -/
theorem nodes_of_described {values : List Value} {tokens : List Block}
    (described : AreBlocks values tokens) :
    nodesOf values = .ofNoted (blockNodes tokens) := by
  unfold nodesOf
  rw [blocks_of_described described]
  exact congrArg (fun notices => (⟨notices, .ok (blockNodes tokens).value⟩ : Traced Fault (List Node)))
    (List.append_nil _)

end Token

end RichText.Markdown
