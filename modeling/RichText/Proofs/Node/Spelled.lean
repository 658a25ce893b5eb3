import RichText.Proofs.Node.Reading
import RichText.Proofs.Node.Spelling

/-!
Reading spellings. Each part of a node is read from any spelling of it, and a collection that is being
read is not met again among the children, since its label is fresh. So the reader makes the same tree of
every spelling, alone and as a document.
-/

namespace RichText.Node

/-! ## Names of tags -/

theorem Kind.mem_all (kind : Kind) : kind ∈ all := by
  cases kind with
  | heading level =>
      obtain ⟨number, isLevel⟩ := level
      have cases : number = 1 ∨ number = 2 ∨ number = 3 ∨ number = 4 ∨ number = 5 ∨ number = 6 := by
        omega
      rcases cases with rfl | rfl | rfl | rfl | rfl | rfl
      all_goals decide +revert
  | _ => decide

theorem Kind.of_name_name (kind : Kind) : ofName? kind.name = some kind := by
  have distinct : ∀ kind ∈ all, ofName? kind.name = some kind := by decide
  exact distinct kind kind.mem_all

theorem Tag.of_name_name (tag : Tag) : ofName tag.name = tag := by
  unfold ofName
  split
  · rename_i kind found
    cases tag with
    | known other => rw [Option.some.inj (found.symm.trans other.of_name_name)]
    | other name unknown => exact absurd (found.symm.trans unknown) nofun
  · rename_i found
    cases tag with
    | known kind => exact absurd (found.symm.trans kind.of_name_name) nofun
    | other name unknown => rfl

theorem Tag.name_eq_iff {tag : Tag} {kind : Kind} : tag.name = kind.name ↔ tag = .known kind := by
  constructor
  · intro same
    have named := tag.of_name_name
    rw [same] at named
    exact named.symm.trans (Tag.of_name_name (.known kind))
  · rintro rfl
    rfl

/-! ## Parts of spellings -/

section Parts

variable {tag : Tag} {value : Value}

theorem mark_of_spelled (tagName : Text) {name : Text} (spells : SpellsMark name value) :
    markOf tagName value = .ok name := by
  cases spells with
  | byName => rfl
  | byType own present type =>
      obtain ⟨others, same, typed⟩ :=
        Value.opened_mapping (Value.lookup_text_kept "type" name) own type
      unfold markOf
      simp only [same, Value.field, typed, Option.getD_some, Value.isTruthy]
      rw [if_pos (by simpa using present)]
      rfl

theorem each_of_spelled {α : Type} {step : Value → Except Fault α} {spells : α → Value → Prop}
    {results : List α} {items : List Value}
    (read : ∀ result item, spells result item → step item = .ok result)
    (each : List.Forall₂ spells results items) : items.mapM step = .ok results := by
  induction each with
  | nil => rfl
  | cons first rest induction =>
      rw [List.mapM_cons, read _ _ first, induction]
      rfl

theorem opened_list {names : List Text} {items : List Value} (own : Option Nat)
    (each : List.Forall₂ SpellsMark names items) : ∃ others,
      (Value.labelled own (.list items)).opened = .list others ∧
        List.Forall₂ SpellsMark names others := by
  cases own with
  | none => exact ⟨items, rfl, each⟩
  | some label => exact ⟨_, rfl, each_mark_filled label _ each⟩

theorem marks_of_spelled (tagName : Text) {names : List Text} (spells : SpellsMarks names value) :
    marksOf tagName value = .ok names := by
  cases spells with
  | null => rfl
  | @list _ items own each =>
      obtain ⟨others, same, spelled⟩ := opened_list own each
      have series : (Value.labelled own (.list items)).series? = some others := by
        rw [Value.series?, same]
      unfold marksOf
      rw [Value.labelled_truthy, series]
      split
      · exact each_of_spelled (fun _ _ => mark_of_spelled tagName) spelled
      · rename_i absent
        have empty : items = [] := by simpa [Value.isTruthy] using absent
        subst empty
        rw [List.forall₂_nil_right_iff.mp each]

theorem span_of_spelled (name tagName : Text) {span : Option Int} (spells : SpellsSpan span value) :
    spanOf name tagName value = .ok span := by
  cases spells with
  | null => rfl
  | int size => rfl

theorem address_of_spelled {address : Option Text} (spells : SpellsAddress address value) :
    (if value.isTruthy then some value.toText else none) = address := by
  cases spells with
  | null => rfl
  | empty => rfl
  | text present => exact if_pos (by simpa [Value.isTruthy] using present)

theorem text_of_spelled {text : Text} (spells : SpellsText text value) : textOf value = text := by
  cases spells with
  | null => rfl
  | text => rfl

theorem default_target_kind (tag : Tag) : defaultTargetKind tag.name = tag.targetKind := by
  simp only [defaultTargetKind, Tag.name_eq_iff]
  cases tag with
  | other name unknown => rfl
  | known kind => cases kind <;> rfl

theorem target_kind_of_refers {target : Target} {entries : List (Value × Value)}
    (refers : Refers tag target entries) :
    targetKindOf tag.name (Value.fieldOr "linkType" (.text []) entries).toText = target.kind := by
  unfold targetKindOf Value.fieldOr
  rcases refers.kind with ⟨missing, same⟩ | ⟨word, written, lowered⟩
  · rw [missing, same]
    exact default_target_kind tag
  · rw [written]
    have shown : (Value.text word).toText = word := rfl
    simp only [Option.getD_some, shown, lowered]
    cases target.kind with
    | asset => rfl
    | entry => rfl

theorem target_of_spelled {target : Option Target} (spells : SpellsTarget tag target value) :
    targetOf tag.name value = target := by
  cases spells with
  | null => rfl
  | @map target entries own holds =>
      obtain ⟨others, same, held⟩ := Value.opened_mapping (holds_target_kept tag target) own holds
      have found {system : List (Value × Value)}
          (holder : (Value.fieldOr "sys" (.labelled own (.map entries)) others).opened = .map system)
          (refers : Refers tag target system) :
          targetOf tag.name (.labelled own (.map entries)) = some target := by
        have id : Value.field "id" system = .text target.id := by
          rw [Value.field, refers.id, Option.getD_some]
        have present : (Value.text target.id).isTruthy = true := by
          simpa [Value.isTruthy] using refers.present
        unfold targetOf
        simp only [same, holder, id, if_pos present, target_kind_of_refers refers]
        rfl
      cases held with
      | bare noSystem refers =>
          have holder : (Value.fieldOr "sys" (.labelled own (.map entries)) others).opened =
              .map others := by
            rw [Value.fieldOr, noSystem, Option.getD_none, same]
          exact found holder refers
      | underSystem label system refers =>
          obtain ⟨inside, opened, refersInside⟩ :=
            Value.opened_mapping (refers_kept tag target) label refers
          have holder : (Value.fieldOr "sys" (.labelled own (.map entries)) others).opened =
              .map inside := by
            rw [Value.fieldOr, system, Option.getD_some, opened]
          exact found holder refersInside

theorem payload_of_spelled {payload : Payload} (spells : SpellsPayload tag payload value) :
    payloadOf tag.name value = .ok payload := by
  cases spells with
  | null => rfl
  | map own carries =>
      obtain ⟨others, same, carried⟩ := Value.opened_mapping (carries_kept tag payload) own carries
      unfold payloadOf
      simp only [same, span_of_spelled _ _ carried.colspan, span_of_spelled _ _ carried.rowspan,
        address_of_spelled carried.uri, target_of_spelled carried.target]
      rfl

end Parts

/-! ## Reading spellings -/

theorem close_kept {holds : Value → Prop}
    (kept : ∀ label whole value, holds value → holds (Value.filled label whole value))
    (around : Around) {value : Value} (here : holds value) : holds (around.close value) := by
  induction around generalizing value with
  | nil => exact here
  | cons entry around induction => exact induction (kept entry.1 entry.2 value here)

section Read

variable {given : Node} {entries : List (Value × Value)}

theorem tag_name_of_described (describes : Describes given entries) :
    tagNameOf entries = .ok given.tag.name := by
  rw [tag_name_ok_iff, Value.field, describes.tag]
  exact ⟨rfl, describes.present⟩

theorem check_content_of_opened {around inside : List Nat} {content : Value} {items : List Value}
    (tag : Text) (opens : OpensContent around content items inside) :
    checkContent tag content = .ok () := by
  cases opens with
  | null => rfl
  | list label fresh => cases label <;> rfl

theorem of_fields_described {around : List Nat} {inside : List Nat} {items : List Value}
    {content : Except Fault (List Node)} (open' : Around) (describes : Describes given entries)
    (opens : OpensContent around (Value.field "content" entries) items inside)
    (read : content = .ok given.children) : ofFields open' entries content = .ok given := by
  have marks := marks_of_spelled given.tag.name (close_kept (fun label whole value =>
    marks_filled label whole) open' describes.marks)
  have payload := payload_of_spelled (close_kept (fun label whole value =>
    payload_filled label whole) open' describes.payload)
  have text := text_of_spelled (close_kept (fun label whole value =>
    text_filled label whole) open' describes.value)
  have passed {α β : Type} (value : α) (next : α → Except Fault β) :
      (Except.ok value >>= next) = next value := rfl
  simp only [ofFields, tag_name_of_described describes, check_content_of_opened _ opens, passed, marks,
    read, payload, text, Tag.of_name_name]
  cases given
  rfl

end Read

/-- Collections that are being read are among those with some labels. -/
def Around.Inside (around : Around) (labels : List Nat) : Prop :=
  ∀ label, around.has label = true → label ∈ labels

theorem inside_nil (labels : List Nat) : Around.Inside [] labels := by
  intro label has
  exact absurd has Bool.false_ne_true

section Around

variable {around : Around} {labels inside : List Nat}

theorem not_has_of_fresh {label : Nat} (within : around.Inside labels) (fresh : label ∉ labels) :
    around.has label = false := by
  cases has : around.has label with
  | false => rfl
  | true => exact absurd (within label has) fresh

theorem enter_inside (label : Nat) (value : Value) (within : around.Inside labels) :
    (around.enter label value).Inside (label :: labels) := by
  intro other has
  unfold Around.has Around.enter at has
  rw [List.lookup_cons] at has
  by_cases same : other = label
  · rw [same]
    exact List.mem_cons_self
  · have differs : (other == label) = false := by simpa using same
    rw [differs] at has
    exact List.mem_cons_of_mem _ (within other has)

theorem content_of_opened {content : Value} {items : List Value} {children : List Node}
    (opens : OpensContent labels content items inside) (within : around.Inside labels)
    (read : ∀ around : Around, around.Inside inside → items.mapM (readIn around) = .ok children) :
    contentIn around content = .ok children := by
  cases opens with
  | null => exact read around within
  | list label fresh =>
      cases label with
      | none =>
          have items := nodes_in_eq around items
          exact items.trans (read around within)
      | some label =>
          have unread := not_has_of_fresh within (fresh label rfl)
          have entered := read _ (enter_inside label (.list items) within)
          rw [Value.labelled, contentIn, unread, nodes_in_eq]
          exact entered

/-- The induction is on the tree: a spelling of a node holds spellings of its children. -/
theorem read_of_spelled {given : Node} {value : Value} (spells : Spells labels given value) :
    ∀ around : Around, around.Inside labels → readIn around value = .ok given := by
  induction spells with
  | @node labels inside given entries items label fresh describes content count each induction =>
      intro around within
      have children (around : Around) (within : around.Inside (label.toList ++ labels)) :
          childrenIn around entries = .ok given.children := by
        rw [children_in_field]
        apply content_of_opened content within
        intro around within
        have spelled : List.Forall₂ (fun child item => readIn around item = .ok child)
            given.children items :=
          List.forall₂_iff_zip.mpr ⟨count, fun member => induction _ member around within⟩
        exact each_of_spelled (fun _ _ same => same) spelled
      cases label with
      | none => exact of_fields_described around describes content (children around within)
      | some label =>
          have unread := not_has_of_fresh within (fresh label rfl)
          have entered := enter_inside label (.map entries) within
          rw [Value.labelled, readIn, unread]
          exact of_fields_described _ describes content (children _ entered)

end Around

/-! ## Documents -/

theorem document_value_of_described {given : Node} {value : Value} {entries : List (Value × Value)}
    (isDocument : given.kind? = some .document) (opened : value.opened = .map entries)
    (describes : Describes given entries) : isDocumentValue value = true := by
  have tag : given.tag = .known .document := by
    unfold kind? Tag.kind? at isDocument
    split at isDocument
    · rename_i kind same
      rw [same, Option.some.inj isDocument]
    · exact absurd isDocument nofun
  unfold isDocumentValue
  simp only [opened, Value.field, describes.tag, tag, Option.getD_some]
  rfl

/-- A document is read from the fields of any of its spellings. -/
theorem document_of_spelled {given : Node} {value : Value} {entries : List (Value × Value)}
    (isDocument : given.kind? = some .document) (spells : Spells [] given value)
    (opened : value.opened = .map entries) : documentOf entries = .ok given := by
  obtain ⟨others, same, describes, spelled⟩ := spells_opened spells
  obtain rfl := Value.map.inj (opened.symm.trans same)
  have looks : isDocumentValue (.map entries) = true :=
    document_value_of_described isDocument rfl describes
  unfold documentOf
  rw [describes.tag, looks]
  exact read_of_spelled spelled [] (inside_nil [])

theorem document_of_body {given : Node} {body : Value} {entries : List (Value × Value)}
    (isDocument : given.kind? = some .document) (spells : Spells [] given body)
    (untagged : Value.lookup "nodeType" entries = none)
    (holds : Value.lookup "body" entries = some body) : documentOf entries = .ok given := by
  obtain ⟨others, same, describes, -⟩ := spells_opened spells
  have looks : isDocumentValue body = true := document_value_of_described isDocument same describes
  unfold documentOf
  simp only [untagged, Value.field, holds, Option.getD_some, looks]
  exact read_of_spelled spells [] (inside_nil [])

/-- A tree without empty names has spellings, and each of them is read as that tree. The spelling of a
document is read as well where a document is asked for, as it is or under the `body` of a mapping. -/
theorem every_spelling_read {given : Node} (writable : Writable given) :
    (∃ value, Spells [] given value) ∧
      ∀ value, Spells [] given value →
        ofValue value = .ok given ∧
          (given.kind? = some .document →
            (∀ entries, value.opened = .map entries → documentOf entries = .ok given) ∧
              ∀ entries, Value.lookup "nodeType" entries = none →
                Value.lookup "body" entries = some value → documentOf entries = .ok given) := by
  refine ⟨⟨given.written, spells_written writable⟩, ?_⟩
  intro value spells
  refine ⟨read_of_spelled spells [] (inside_nil []), ?_⟩
  intro isDocument
  constructor
  · intro entries opened
    exact document_of_spelled isDocument spells opened
  · intro entries untagged holds
    exact document_of_body isDocument spells untagged holds

def linkedText : Node := ⟨.known .text, [], "a", ["bold", "wavy"], {}⟩

def linkedAsset : Node :=
  ⟨.known .assetHyperlink, [linkedText], [], [], { target := some ⟨"x", .asset⟩ }⟩

def linkedChart : Node :=
  ⟨.ofName "chart", [], [], [], { target := some ⟨"y", .asset⟩, colspan := some (-1) }⟩

def linkedDocument : Node := ⟨.known .document, [linkedAsset, linkedChart], [], [], {}⟩

def linkedTextFields : List (Value × Value) :=
  [(.text "up", .again 1 .list), (.text "nodeType", .text "text"), (.text "value", .text "a"),
    (.text "marks", .list [.text "bold", .map [(.int 0, .null), (.text "type", .text "wavy")]])]

def linkedAssetFields : List (Value × Value) :=
  [(.text "nodeType", .text "asset-hyperlink"), (.text "marks", .null),
    (.text "data", .map [(.text "target", .map [(.text "id", .text "x")])]),
    (.text "content", .list [.map linkedTextFields])]

def linkedChartFields : List (Value × Value) :=
  [(.text "nodeType", .text "chart"), (.text "value", .text []), (.text "content", .null),
    (.text "data", .map [(.text "uri", .text []), (.text "colspan", .int (-1)),
      (.text "target", .map [(.text "sys", .map [(.text "linkType", .text "AsSeT"),
        (.text "id", .text "y")])])])]

def linkedFields : List (Value × Value) :=
  [(.text "self", .again 0 .map), (.text "nodeType", .text "document"), (.text "marks", .list []),
    (.text "content", .loop 1 (.list [.map linkedAssetFields, .map linkedChartFields]))]

theorem linked_document_read :
    Writable linkedDocument ∧ Spells [] linkedDocument (.loop 0 (.map linkedFields)) ∧
      ofValue (.loop 0 (.map linkedFields)) = .ok linkedDocument ∧
      documentOf [(.text "body", .loop 0 (.map linkedFields))] = .ok linkedDocument := by
  have text : Spells [1, 0] linkedText (.map linkedTextFields) :=
    .node none (by decide)
      ⟨by decide, rfl, .text "a",
        .list none (.cons (.byName _) (.cons (.byType none (by decide) rfl) .nil)), .null⟩
      .null rfl nofun
  have asset : Spells [1, 0] linkedAsset (.map linkedAssetFields) :=
    .node none (by decide)
      ⟨by decide, rfl, .null, .null,
        .map none ⟨.null, .map none (.bare rfl ⟨by decide, rfl, .inl ⟨rfl, rfl⟩⟩), .null, .null⟩⟩
      (.list none (by decide)) rfl (List.forall_mem_singleton.mpr text)
  have chart : Spells [1, 0] linkedChart (.map linkedChartFields) :=
    .node none (by decide)
      ⟨by decide, rfl, .text [], .null,
        .map none ⟨.empty,
          .map none (.underSystem none rfl ⟨by decide, rfl, .inr ⟨"AsSeT", rfl, by decide⟩⟩),
          .int (-1), .null⟩⟩
      .null rfl nofun
  have spells : Spells [] linkedDocument (.loop 0 (.map linkedFields)) :=
    .node (some 0) (by decide) ⟨by decide, rfl, .null, .list none .nil, .null⟩
      (.list (some 1) (by decide)) rfl
      (List.forall_mem_cons.mpr ⟨asset, List.forall_mem_singleton.mpr chart⟩)
  have writable : Writable linkedDocument :=
    .node (by decide) (by decide) (by decide) (List.forall_mem_cons.mpr
      ⟨.node (by decide) (by decide) (by decide)
          (List.forall_mem_singleton.mpr (.node (by decide) (by decide) (by decide) nofun)),
        List.forall_mem_singleton.mpr (.node (by decide) (by decide) (by decide) nofun)⟩)
  have read := (every_spelling_read writable).2 _ spells
  exact ⟨writable, spells, read.1, (read.2 rfl).2 _ rfl rfl⟩

end RichText.Node
