import Mathlib.Data.List.Forall2
import RichText.Node.Reader
import RichText.Proofs.Value.Filled

/-!
Spellings of nodes. One tree is written as values in many ways: marks by name or as mappings, a target
bare or under `sys`, with a kind in any letter case or with none where the tag says it already, and what
is empty as nothing, as null or as an empty value. A mapping may hold more fields than are read, and such
a field may hold the collections that it stands in. Going into such a collection leaves a spelling of the
same tree, and every tree without empty names has a spelling.
-/

namespace RichText.Node

/-! ## Spellings -/

/-- A mark by its name, or as a mapping with its name for a type. -/
inductive SpellsMark : Text → Value → Prop
  | byName (name : Text) : SpellsMark name (.text name)
  | byType {name : Text} {entries : List (Value × Value)} (label : Option Nat) (present : name ≠ [])
      (type : Value.lookup "type" entries = some (.text name)) :
      SpellsMark name (.labelled label (.map entries))

inductive SpellsMarks : List Text → Value → Prop
  | null : SpellsMarks [] .null
  | list {names : List Text} {items : List Value} (label : Option Nat)
      (each : List.Forall₂ SpellsMark names items) : SpellsMarks names (.labelled label (.list items))

inductive SpellsText : Text → Value → Prop
  | null : SpellsText [] .null
  | text (value : Text) : SpellsText value (.text value)

inductive SpellsAddress : Option Text → Value → Prop
  | null : SpellsAddress none .null
  | empty : SpellsAddress none (.text [])
  | text {address : Text} (present : address ≠ []) : SpellsAddress (some address) (.text address)

inductive SpellsSpan : Option Int → Value → Prop
  | null : SpellsSpan none .null
  | int (size : Int) : SpellsSpan (some size) (.int size)

def TargetKind.name : TargetKind → Text
  | .asset => "asset"
  | .entry => "entry"

/-- What the target of a node with a tag is, unless it says something else. -/
def Tag.targetKind : Tag → TargetKind
  | .known .embeddedAsset | .known .assetHyperlink => .asset
  | _ => .entry

/-- The fields of a target. The kind is written in any letter case, or left out. -/
structure Refers (tag : Tag) (target : Target) (entries : List (Value × Value)) : Prop where
  present : target.id ≠ []
  id : Value.lookup "id" entries = some (.text target.id)
  kind : (Value.lookup "linkType" entries = none ∧ target.kind = tag.targetKind) ∨
    ∃ word, Value.lookup "linkType" entries = some (.text word) ∧ Text.lower word = target.kind.name

/-- The fields of a target, in the mapping itself or in one of its own under `sys`. -/
inductive HoldsTarget (tag : Tag) (target : Target) (entries : List (Value × Value)) : Prop
  | bare (noSystem : Value.lookup "sys" entries = none) (refers : Refers tag target entries) :
      HoldsTarget tag target entries
  | underSystem {system : List (Value × Value)} (label : Option Nat)
      (holds : Value.lookup "sys" entries = some (.labelled label (.map system)))
      (refers : Refers tag target system) : HoldsTarget tag target entries

inductive SpellsTarget (tag : Tag) : Option Target → Value → Prop
  | null : SpellsTarget tag none .null
  | map {target : Target} {entries : List (Value × Value)} (label : Option Nat)
      (holds : HoldsTarget tag target entries) :
      SpellsTarget tag (some target) (.labelled label (.map entries))

/-- The fields of a payload. -/
structure Carries (tag : Tag) (payload : Payload) (entries : List (Value × Value)) : Prop where
  uri : SpellsAddress payload.uri (Value.field "uri" entries)
  target : SpellsTarget tag payload.target (Value.field "target" entries)
  colspan : SpellsSpan payload.colspan (Value.field "colspan" entries)
  rowspan : SpellsSpan payload.rowspan (Value.field "rowspan" entries)

inductive SpellsPayload (tag : Tag) : Payload → Value → Prop
  | null : SpellsPayload tag {} .null
  | map {payload : Payload} {entries : List (Value × Value)} (label : Option Nat)
      (carries : Carries tag payload entries) :
      SpellsPayload tag payload (.labelled label (.map entries))

/-- The fields of a node besides its content. -/
structure Describes (given : Node) (entries : List (Value × Value)) : Prop where
  present : given.tag.name ≠ []
  tag : Value.lookup "nodeType" entries = some (.text given.tag.name)
  value : SpellsText given.value (Value.field "value" entries)
  marks : SpellsMarks given.marks (Value.field "marks" entries)
  payload : SpellsPayload given.tag given.payload (Value.field "data" entries)

/-- The items of a content inside of collections with labels, and the labels around the items. -/
inductive OpensContent (around : List Nat) : Value → List Value → List Nat → Prop
  | null : OpensContent around .null [] around
  | list {items : List Value} (label : Option Nat) (fresh : ∀ own ∈ label, own ∉ around) :
      OpensContent around (.labelled label (.list items)) items (label.toList ++ around)

/-- A value is a spelling of a node, inside of collections with labels. The items of its content are
spellings of the children, one by one. -/
inductive Spells : List Nat → Node → Value → Prop
  | node {around inside : List Nat} {given : Node} {entries : List (Value × Value)}
      {items : List Value} (label : Option Nat) (fresh : ∀ own ∈ label, own ∉ around)
      (describes : Describes given entries)
      (content : OpensContent (label.toList ++ around) (Value.field "content" entries) items inside)
      (count : given.children.length = items.length)
      (each : ∀ pair ∈ given.children.zip items, Spells inside pair.1 pair.2) :
      Spells around given (.labelled label (.map entries))

/-! ## Labels that are filled in -/

section Filled

variable (label : Nat) (whole : Value) {tag : Tag} {value : Value}

theorem mark_filled {name : Text} (spells : SpellsMark name value) :
    SpellsMark name (Value.filled label whole value) := by
  cases spells with
  | byName => exact .byName name
  | byType own present type =>
      obtain ⟨others, same, typed⟩ :=
        Value.filled_mapping label whole (Value.lookup_text_kept "type" name) own type
      rw [same]
      exact .byType own present typed

theorem each_mark_filled {names : List Text} {items : List Value}
    (each : List.Forall₂ SpellsMark names items) :
    List.Forall₂ SpellsMark names (Value.filledItems label whole items) := by
  rw [Value.filled_items_eq, List.forall₂_map_right_iff]
  exact each.imp fun name value => mark_filled label whole

theorem marks_filled {names : List Text} (spells : SpellsMarks names value) :
    SpellsMarks names (Value.filled label whole value) := by
  cases spells with
  | null => exact .null
  | @list _ items own each =>
      rcases Value.filled_labelled_cases label whole own (.list items) with same | inside
      · rw [same]
        exact .list own each
      · rw [inside]
        exact .list own (each_mark_filled label whole each)

theorem text_filled {text : Text} (spells : SpellsText text value) :
    SpellsText text (Value.filled label whole value) := by
  cases spells with
  | null => exact .null
  | text => exact .text text

theorem address_filled {address : Option Text} (spells : SpellsAddress address value) :
    SpellsAddress address (Value.filled label whole value) := by
  cases spells with
  | null => exact .null
  | empty => exact .empty
  | text present => exact .text present

theorem span_filled {span : Option Int} (spells : SpellsSpan span value) :
    SpellsSpan span (Value.filled label whole value) := by
  cases spells with
  | null => exact .null
  | int size => exact .int size

theorem refers_kept (tag : Tag) (target : Target) : Value.Kept (Refers tag target) := by
  intro label whole entries refers
  refine ⟨refers.present, Value.lookup_text_kept _ _ label whole entries refers.id, ?_⟩
  rcases refers.kind with ⟨missing, same⟩ | ⟨word, written, lowered⟩
  · exact .inl ⟨Value.lookup_none_kept _ label whole entries missing, same⟩
  · exact .inr ⟨word, Value.lookup_text_kept _ _ label whole entries written, lowered⟩

theorem holds_target_kept (tag : Tag) (target : Target) : Value.Kept (HoldsTarget tag target) := by
  intro label whole entries holds
  cases holds with
  | bare noSystem refers =>
      exact .bare (Value.lookup_none_kept _ label whole entries noSystem)
        (refers_kept tag target label whole entries refers)
  | underSystem own system refers =>
      obtain ⟨others, same, refersInside⟩ :=
        Value.filled_mapping label whole (refers_kept tag target) own refers
      refine .underSystem own ?_ refersInside
      rw [Value.lookup_filled, system, Option.map_some, same]

theorem target_filled {target : Option Target} (spells : SpellsTarget tag target value) :
    SpellsTarget tag target (Value.filled label whole value) := by
  cases spells with
  | null => exact .null
  | map own holds =>
      obtain ⟨others, same, held⟩ :=
        Value.filled_mapping label whole (holds_target_kept tag _) own holds
      rw [same]
      exact .map own held

theorem carries_kept (tag : Tag) (payload : Payload) : Value.Kept (Carries tag payload) := by
  intro label whole entries carries
  constructor
  all_goals rw [Value.field_filled]
  · exact address_filled label whole carries.uri
  · exact target_filled label whole carries.target
  · exact span_filled label whole carries.colspan
  · exact span_filled label whole carries.rowspan

theorem payload_filled {payload : Payload} (spells : SpellsPayload tag payload value) :
    SpellsPayload tag payload (Value.filled label whole value) := by
  cases spells with
  | null => exact .null
  | map own carries =>
      obtain ⟨others, same, carried⟩ :=
        Value.filled_mapping label whole (carries_kept tag payload) own carries
      rw [same]
      exact .map own carried

end Filled

/-! ## Spellings in fewer collections -/

section Fewer

variable {around fewer inside : List Nat} {content : Value} {items : List Value}

theorem added_subset (own : Option Nat) (subset : fewer ⊆ around) :
    own.toList ++ fewer ⊆ own.toList ++ around :=
  List.append_subset.mpr
    ⟨List.subset_append_left _ _, fun _ member => List.mem_append_right _ (subset member)⟩

theorem content_of_fewer (opens : OpensContent around content items inside) (subset : fewer ⊆ around) :
    ∃ others, others ⊆ inside ∧ OpensContent fewer content items others := by
  cases opens with
  | null => exact ⟨fewer, subset, .null⟩
  | list own fresh =>
      exact ⟨_, added_subset own subset,
        .list own fun label member inside => fresh label member (subset inside)⟩

theorem spells_of_fewer {given : Node} {value : Value} (spells : Spells around given value) :
    ∀ fewer, fewer ⊆ around → Spells fewer given value := by
  induction spells with
  | node own fresh describes content count each induction =>
      intro fewer subset
      obtain ⟨others, within, opens⟩ := content_of_fewer content (added_subset own subset)
      exact .node own (fun label member inside => fresh label member (subset inside)) describes opens
        count fun pair member => induction pair member others within

end Fewer

theorem describes_kept (given : Node) : Value.Kept (Describes given) := by
  intro label whole entries describes
  refine ⟨describes.present, Value.lookup_text_kept _ _ label whole entries describes.tag, ?_, ?_, ?_⟩
  all_goals rw [Value.field_filled]
  · exact text_filled label whole describes.value
  · exact marks_filled label whole describes.marks
  · exact payload_filled label whole describes.payload

theorem content_filled (label : Nat) (whole : Value) {around inside : List Nat} {content : Value}
    {items : List Value} (opens : OpensContent around content items inside) :
    OpensContent around (Value.filled label whole content) items inside ∨
      OpensContent around (Value.filled label whole content) (items.map (Value.filled label whole))
        inside := by
  cases opens with
  | null => exact .inl .null
  | list own fresh =>
      rcases Value.filled_labelled_cases label whole own (.list items) with same | filled
      · rw [same]
        exact .inl (.list own fresh)
      · rw [filled, Value.filled, Value.filled_items_eq]
        exact .inr (.list own fresh)

theorem each_child_filled (label : Nat) (whole : Value) {inside : List Nat} {children : List Node}
    {items : List Value} (count : children.length = items.length)
    (each : ∀ pair ∈ children.zip items, Spells inside pair.1 (Value.filled label whole pair.2)) :
    ∀ pair ∈ children.zip (items.map (Value.filled label whole)), Spells inside pair.1 pair.2 := by
  have spelled : List.Forall₂ (fun child item => Spells inside child (Value.filled label whole item))
      children items := List.forall₂_iff_zip.mpr ⟨count, fun member => each _ member⟩
  rw [← List.forall₂_map_right_iff] at spelled
  intro pair member
  exact (List.forall₂_iff_zip.mp spelled).2 member

theorem spells_filled (label : Nat) (whole : Value) {around : List Nat} {given : Node} {value : Value}
    (spells : Spells around given value) : Spells around given (Value.filled label whole value) := by
  induction spells with
  | @node around inside given entries items own fresh describes content count each induction =>
      rcases Value.filled_labelled_cases label whole own (.map entries) with same | filled
      · rw [same]
        exact .node own fresh describes content count each
      · rw [filled, Value.filled]
        have described := describes_kept given label whole entries describes
        have opens := content_filled label whole content
        rw [← Value.field_filled] at opens
        rcases opens with opens | opens
        · exact .node own fresh described opens count each
        · have counted : given.children.length = (items.map (Value.filled label whole)).length := by
            rw [List.length_map, count]
          exact .node own fresh described opens counted
            (each_child_filled label whole count induction)

/-- A spelling with its own label filled in is a spelling again. -/
theorem spells_opened {given : Node} {value : Value} (spells : Spells [] given value) :
    ∃ entries, value.opened = .map entries ∧ Describes given entries ∧
      Spells [] given (.map entries) := by
  cases spells with
  | node own fresh describes content count each =>
      rename_i entries items
      obtain ⟨others, within, opens⟩ := content_of_fewer content (List.nil_subset _)
      have bare : Spells [] given (.map entries) :=
        .node none (fun _ absent => absurd absent nofun) describes opens count
          fun pair member => spells_of_fewer (each pair member) others within
      cases own with
      | none => exact ⟨entries, rfl, describes, bare⟩
      | some label =>
          exact ⟨_, rfl, describes_kept given label (.loop label (.map entries)) entries describes,
            spells_filled label (.loop label (.map entries)) bare⟩

/-! ## Trees that have spellings -/

/-- A tree can be written if each of its nodes has a tag, and no address and no id is empty. -/
inductive Writable : Node → Prop
  | node {given : Node} (tag : given.tag.name ≠ []) (uri : given.payload.uri ≠ some [])
      (target : ∀ other ∈ given.payload.target, other.id ≠ [])
      (below : ∀ child ∈ given.children, Writable child) : Writable given

def Target.written (target : Target) : Value :=
  .map [(.text "sys", .map [(.text "id", .text target.id), (.text "linkType", .text target.kind.name)])]

def Payload.written (payload : Payload) : Value :=
  .map [
    (.text "uri", (payload.uri.map .text).getD .null),
    (.text "target", (payload.target.map Target.written).getD .null),
    (.text "colspan", (payload.colspan.map .int).getD .null),
    (.text "rowspan", (payload.rowspan.map .int).getD .null)]

/-- The fields of a node over its content. -/
def writtenFields (given : Node) (items : List Value) : List (Value × Value) :=
  [(.text "nodeType", .text given.tag.name),
    (.text "content", .list items),
    (.text "value", .text given.value),
    (.text "marks", .list (given.marks.map .text)),
    (.text "data", given.payload.written)]

mutual

/-- The spelling with every field present, marks by name and targets under `sys`. -/
def written : Node → Value
  | ⟨tag, children, value, marks, payload⟩ =>
      .map (writtenFields ⟨tag, children, value, marks, payload⟩ (writtenAll children))

def writtenAll : List Node → List Value
  | [] => []
  | given :: siblings => written given :: writtenAll siblings

end

section Written

variable (tag : Tag)

theorem written_all_eq (siblings : List Node) : writtenAll siblings = siblings.map written := by
  induction siblings with
  | nil => rfl
  | cons given siblings induction => rw [writtenAll, induction, List.map_cons]

theorem written_marks (marks : List Text) : SpellsMarks marks (.list (marks.map .text)) := by
  apply SpellsMarks.list none
  rw [List.forall₂_map_right_iff, List.forall₂_same]
  exact fun name _ => .byName name

theorem written_address {address : Option Text} (present : address ≠ some []) :
    SpellsAddress address ((address.map .text).getD .null) := by
  cases address with
  | none => exact .null
  | some address => exact .text fun empty => present (congrArg some empty)

theorem written_span (span : Option Int) : SpellsSpan span ((span.map .int).getD .null) := by
  cases span with
  | none => exact .null
  | some size => exact .int size

theorem written_target {target : Option Target} (present : ∀ given ∈ target, given.id ≠ []) :
    SpellsTarget tag target ((target.map Target.written).getD .null) := by
  cases target with
  | none => exact .null
  | some target =>
      have lowered : Text.lower target.kind.name = target.kind.name := by
        cases target.kind <;> decide
      exact .map none (.underSystem none rfl
        ⟨present target rfl, rfl, .inr ⟨target.kind.name, rfl, lowered⟩⟩)

theorem written_payload {payload : Payload} (uri : payload.uri ≠ some [])
    (target : ∀ given ∈ payload.target, given.id ≠ []) :
    SpellsPayload tag payload payload.written :=
  .map none ⟨written_address uri, written_target tag target, written_span _, written_span _⟩

end Written

theorem spells_written {given : Node} (writable : Writable given) : Spells [] given given.written := by
  induction writable with
  | @node given tag uri target below induction =>
      obtain ⟨name, children, value, marks, payload⟩ := given
      have each : List.Forall₂ (Spells []) children (writtenAll children) := by
        rw [written_all_eq, List.forall₂_map_right_iff, List.forall₂_same]
        exact induction
      obtain ⟨count, spelled⟩ := List.forall₂_iff_zip.mp each
      have describes : Describes ⟨name, children, value, marks, payload⟩
          (writtenFields ⟨name, children, value, marks, payload⟩ (writtenAll children)) :=
        ⟨tag, rfl, .text value, written_marks marks, written_payload name uri target⟩
      exact .node none (fun _ absent => absurd absent nofun) describes
        (.list none fun _ absent => absurd absent nofun) count fun _ member => spelled member

end RichText.Node
