import RichText.Node.Reader
import RichText.Proofs.Traced
import RichText.Proofs.Value.Shape

/-!
What a finite value does to the reader of nodes. Most wrong shapes are reported. Two are not: marks that
are a single value, and a span that is infinite; the first of them that the reader comes to stops it.
-/

namespace RichText

/-! ## Faults that stop the reader -/

/-- An outcome that is a fault of no structure. -/
def Stopped {α : Type} (outcome : Except Node.Fault α) : Prop :=
  ∃ fault, outcome = .error fault ∧ fault.isStructural = false

section Stopped

variable {α β : Type}

theorem not_stopped_ok (value : α) : ¬Stopped (.ok value : Except Node.Fault α) := not_fails_ok value

theorem stopped_error_iff (fault : Node.Fault) :
    Stopped (.error fault : Except Node.Fault α) ↔ fault.isStructural = false := fails_error_iff fault

theorem not_stopped_error {fault : Node.Fault} (structural : fault.isStructural = true) :
    ¬Stopped (.error fault : Except Node.Fault α) := by
  rw [stopped_error_iff, structural]
  exact nofun

theorem stopped_bind_iff (first : Except Node.Fault α) (next : α → Except Node.Fault β) :
    Stopped (first >>= next) ↔ Stopped first ∨ ∃ value, first = .ok value ∧ Stopped (next value) :=
  fails_bind_iff first next

section Sequence

variable {first : Except Node.Fault α} {next : α → Except Node.Fault β} {stops passes later : Prop}

/-- Two steps of which the second stops, or not, whatever the first has read. -/
theorem stopped_then_iff (stopsFirst : Stopped first ↔ stops) (passesFirst : Returns first ↔ passes)
    (step : ∀ value, Stopped (next value) ↔ later) :
    Stopped (first >>= next) ↔ stops ∨ passes ∧ later := by
  rw [stopped_bind_iff, stopsFirst]
  simp only [step, exists_and_right]
  rw [← passesFirst]
  rfl

theorem stopped_after_iff (sound : ¬Stopped first) (passesFirst : Returns first ↔ passes)
    (step : ∀ value, Stopped (next value) ↔ later) : Stopped (first >>= next) ↔ passes ∧ later := by
  rw [stopped_then_iff (iff_false_intro sound) passesFirst step, false_or]

end Sequence

theorem stopped_map_iff (first : Except Node.Fault α) (build : α → β) :
    Stopped (first >>= fun value => pure (build value)) ↔ Stopped first := fails_map_iff first build

theorem stopped_each_iff (step : α → Except Node.Fault β) (items : List α) :
    Stopped (items.mapM step) ↔ ∃ before item after, items = before ++ item :: after ∧
      (∀ other ∈ before, Returns (step other)) ∧ Stopped (step item) := fails_each_iff step items

end Stopped

namespace Node

/-! ## Reading a finite node -/

/-- What is read as the children of a node. -/
def contentItems (entries : List (Value × Value)) : List Value :=
  match Value.field "content" entries with
  | .list items => items
  | _ => []

theorem nodes_in_eq (around : Around) (values : List Value) :
    nodesIn around values = values.mapM (readIn around) := by
  induction values with
  | nil => rfl
  | cons value values induction =>
      rw [nodesIn, List.mapM_cons, induction]

/-- Reading the children under a field of content. -/
def contentIn (around : Around) : Value → Except Fault (List Node)
  | .list items => nodesIn around items
  | .loop label (.list items) =>
      if around.has label then .error .endless
      else nodesIn (around.enter label (.list items)) items
  | .again _ .list => .error .endless
  | _ => .ok []

theorem children_in_field (around : Around) (entries : List (Value × Value)) :
    childrenIn around entries = contentIn around (Value.field "content" entries) := by
  induction entries with
  | nil => rfl
  | cons entry entries induction =>
      obtain ⟨key, value⟩ := entry
      cases key with
      | text name =>
          by_cases same : name = "content"
          · subst same
            have here : Value.field "content" ((.text "content", value) :: entries) = value := rfl
            rw [here]
            cases value with
            | loop label inner => cases inner <;> rfl
            | again label shape => cases shape <;> rfl
            | _ => rfl
          · have below : Value.field "content" ((.text name, value) :: entries) =
                Value.field "content" entries := by
              rw [Value.field, Value.lookup, if_neg same, Value.field]
            rw [below, ← induction]
            cases value with
            | loop label inner => cases inner <;> exact if_neg same
            | again label shape => cases shape <;> exact if_neg same
            | _ => exact if_neg same
      | _ => exact induction

theorem children_in_eq {entries : List (Value × Value)} (finite : Value.haveFinite entries = true) :
    childrenIn [] entries = (contentItems entries).mapM ofValue := by
  have contentFinite := Value.field_finite "content" finite
  rw [children_in_field]
  unfold contentIn contentItems
  cases content : Value.field "content" entries with
  | list items => exact nodes_in_eq [] items
  | loop label inner => rw [content] at contentFinite; exact absurd contentFinite Bool.false_ne_true
  | again label shape => rw [content] at contentFinite; exact absurd contentFinite Bool.false_ne_true
  | _ => rfl

theorem of_value_map {entries : List (Value × Value)} (finite : Value.haveFinite entries = true) :
    ofValue (.map entries) = ofFields [] entries ((contentItems entries).mapM ofValue) := by
  rw [← children_in_eq finite]
  rfl

/-! ## The parts of a node -/

theorem not_stopped_tag (entries : List (Value × Value)) : ¬Stopped (tagNameOf entries) := by
  unfold tagNameOf
  split
  · split
    · exact not_stopped_error rfl
    · exact not_stopped_ok _
  · exact not_stopped_error rfl

theorem tag_name_ok_iff (entries : List (Value × Value)) (tag : Text) :
    tagNameOf entries = .ok tag ↔ Value.field "nodeType" entries = .text tag ∧ tag ≠ [] := by
  unfold tagNameOf
  split
  · rename_i name same
    rw [same, Value.text.injEq]
    split
    · rename_i empty
      obtain rfl := List.isEmpty_iff.mp empty
      constructor
      · intro passed
        exact absurd passed nofun
      · rintro ⟨rfl, present⟩
        exact absurd rfl present
    · rename_i present
      rw [Except.ok.injEq]
      constructor
      · rintro rfl
        exact ⟨rfl, by simpa using present⟩
      · rintro ⟨rfl, -⟩
        rfl
  · rename_i other
    constructor
    · intro passed
      exact absurd passed nofun
    · rintro ⟨same, -⟩
      exact absurd same (other tag)

theorem not_stopped_content (tag : Text) (value : Value) : ¬Stopped (checkContent tag value) := by
  unfold checkContent
  split
  · exact not_stopped_ok _
  · exact not_stopped_ok _
  · exact not_stopped_ok _
  · split
    · exact not_stopped_error rfl
    · exact not_stopped_ok _

/-- Content that is a list, or is left out. -/
def ContentReadable (value : Value) : Prop := (∃ items, value = .list items) ∨ value.isTruthy = false

theorem check_content_returns_iff (tag : Text) {value : Value} (finite : value.isFinite = true) :
    Returns (checkContent tag value) ↔ ContentReadable value := by
  unfold ContentReadable
  cases value with
  | list items => exact returns_ok_iff _ (.inl ⟨items, rfl⟩)
  | loop label inner => exact absurd finite nofun
  | again label shape => exact absurd finite nofun
  | _ =>
      simp only [checkContent, reduceCtorEq, exists_false, false_or]
      split
      · rename_i present
        exact returns_error_iff _ (by simp [present])
      · rename_i absent
        exact returns_ok_iff _ (by simpa using absent)

/-- A mark by name, or a mapping with a type. -/
def IsMark (value : Value) : Prop :=
  (∃ name, value.opened = .text name) ∨
    ∃ entries, value.opened = .map entries ∧ (Value.field "type" entries).isTruthy = true

theorem not_stopped_mark (tag : Text) (value : Value) : ¬Stopped (markOf tag value) := by
  unfold markOf
  split
  · exact not_stopped_ok _
  · simp only
    split
    · exact not_stopped_ok _
    · exact not_stopped_error rfl
  · exact not_stopped_error rfl

theorem mark_returns_iff (tag : Text) (value : Value) : Returns (markOf tag value) ↔ IsMark value := by
  unfold markOf IsMark
  split
  · rename_i name same
    exact returns_ok_iff _ (.inl ⟨name, same⟩)
  · rename_i entries same
    simp only
    split
    · rename_i present
      exact returns_ok_iff _ (.inr ⟨entries, same, present⟩)
    · rename_i absent
      apply returns_error_iff
      rw [same]
      rintro (⟨name, other⟩ | ⟨others, other, present⟩)
      · exact absurd other nofun
      · obtain rfl := Value.map.inj other
        exact absent present
  · rename_i notText notMap
    apply returns_error_iff
    rintro (⟨name, same⟩ | ⟨entries, same, -⟩)
    · exact notText name same
    · exact notMap entries same

/-- Marks that are left out, or a series of marks. -/
def MarksReadable (marks : Value) : Prop :=
  marks.isTruthy = true → ∃ items, marks.series? = some items ∧ ∀ item ∈ items, IsMark item

theorem marks_returns_iff (tag : Text) (marks : Value) :
    Returns (marksOf tag marks) ↔ MarksReadable marks := by
  unfold marksOf MarksReadable
  split
  · rename_i present
    cases series : marks.series? with
    | none => exact returns_error_iff _ (by simp [present])
    | some items =>
        simp only [returns_each_iff, mark_returns_iff]
        simp [present]
  · rename_i absent
    exact returns_ok_iff _ fun present => absurd present absent

theorem marks_stopped_iff (tag : Text) {marks : Value} (finite : marks.isFinite = true) :
    Stopped (marksOf tag marks) ↔ marks.isTruthy = true ∧ marks.isSingle = true := by
  have single := Value.series_none_iff marks
  rw [Value.opened_of_finite finite] at single
  rw [← single]
  unfold marksOf
  split
  · rename_i present
    cases series : marks.series? with
    | none =>
        rw [stopped_error_iff]
        simp [present, Fault.isStructural]
    | some items =>
        have sound : ¬Stopped (items.mapM (markOf tag)) := by
          rw [stopped_each_iff]
          rintro ⟨before, item, after, -, -, stops⟩
          exact not_stopped_mark tag item stops
        simp [sound]
  · rename_i absent
    simp [absent, not_stopped_ok]

def IsInfinite (span : Value) : Prop := ∃ negative, span = .float (.infinite negative)

/-- A span that is left out, or stands for an integer. -/
def SpanReadable (span : Value) : Prop := span = .null ∨ ∃ size, span.whole = .ok size

theorem span_returns_iff (name tag : Text) (span : Value) :
    Returns (spanOf name tag span) ↔ SpanReadable span := by
  unfold SpanReadable
  cases span with
  | null => exact returns_ok_iff _ (.inl rfl)
  | _ =>
      simp only [spanOf, reduceCtorEq, false_or]
      split
      · rename_i size same
        exact returns_ok_iff _ ⟨size, same⟩
      · rename_i same
        exact returns_error_iff _ (by simp [same])
      · rename_i same
        exact returns_error_iff _ (by simp [same])

theorem whole_infinite_iff (span : Value) : span.whole = .error .infinite ↔ IsInfinite span := by
  have notRead (number? : Option Int) :
      (number?.map Except.ok).getD (Except.error .notANumber) ≠
        (Except.error .infinite : Except Value.WholeFault Int) := by
    cases number? with
    | none => exact nofun
    | some number => exact nofun
  unfold IsInfinite
  cases span with
  | float number =>
      cases number with
      | infinite negative => simp [Value.whole]
      | _ => simp [Value.whole, notRead]
  | _ => simp [Value.whole, notRead]

theorem span_stopped_iff (name tag : Text) (span : Value) :
    Stopped (spanOf name tag span) ↔ IsInfinite span := by
  rw [← whole_infinite_iff]
  cases span with
  | null => simp [spanOf, not_stopped_ok, Value.whole]
  | _ =>
      simp only [spanOf]
      split
      · rename_i size same
        simp [not_stopped_ok, same]
      · rename_i same
        simp [stopped_error_iff, same, Fault.isStructural]
      · rename_i fault finite same
        have other : fault ≠ .infinite := finite
        simp [stopped_error_iff, same, Fault.isStructural, other]

/-- The first span that cannot be read is infinite. -/
def SpansStop (payload : List (Value × Value)) : Prop :=
  IsInfinite (Value.field "colspan" payload) ∨
    SpanReadable (Value.field "colspan" payload) ∧ IsInfinite (Value.field "rowspan" payload)

theorem payload_stopped_iff (tag : Text) {value : Value} (finite : value.isFinite = true) :
    Stopped (payloadOf tag value) ↔ ∃ payload, value = .map payload ∧ SpansStop payload := by
  unfold payloadOf SpansStop
  rw [Value.opened_of_finite finite]
  split
  · simp [not_stopped_ok]
  · rename_i payload
    simp only [Value.map.injEq, exists_eq_left']
    rw [stopped_bind_iff, span_stopped_iff, ← span_returns_iff "colspan" tag]
    apply or_congr_right
    simp only [stopped_map_iff, span_stopped_iff, exists_and_right]
    rfl
  · rename_i notNull notMap
    constructor
    · intro stops
      exact absurd stops (not_stopped_error rfl)
    · rintro ⟨payload, same, -⟩
      exact absurd same (notMap payload)

/-! ## What stops the reader -/

/-- The tag of a node is a text, and its content has the right shape. -/
structure Begun (entries : List (Value × Value)) : Prop where
  tagged : ∃ tag, Value.field "nodeType" entries = .text tag ∧ tag ≠ []
  content : ContentReadable (Value.field "content" entries)

/-- Reading a node comes to marks that are a single value, or to an infinite span, in the node itself or
below, and everything that is read before has the right shape. -/
inductive Stops : Value → Prop
  | marks {entries : List (Value × Value)} (begun : Begun entries)
      (present : (Value.field "marks" entries).isTruthy = true)
      (single : (Value.field "marks" entries).isSingle = true) : Stops (.map entries)
  | child {entries : List (Value × Value)} {before after : List Value} {child : Value}
      (begun : Begun entries) (marks : MarksReadable (Value.field "marks" entries))
      (content : Value.field "content" entries = .list (before ++ child :: after))
      (readable : ∀ other ∈ before, Returns (ofValue other)) (stops : Stops child) :
      Stops (.map entries)
  | span {entries payload : List (Value × Value)} (begun : Begun entries)
      (marks : MarksReadable (Value.field "marks" entries))
      (readable : ∀ child ∈ contentItems entries, Returns (ofValue child))
      (data : Value.field "data" entries = .map payload) (stops : SpansStop payload) :
      Stops (.map entries)

theorem tagged_iff (entries : List (Value × Value)) : Returns (tagNameOf entries) ↔
    ∃ tag, Value.field "nodeType" entries = .text tag ∧ tag ≠ [] := by
  simp only [Returns, tag_name_ok_iff]

theorem begun_iff (entries : List (Value × Value)) : Begun entries ↔
    (∃ tag, Value.field "nodeType" entries = .text tag ∧ tag ≠ []) ∧
      ContentReadable (Value.field "content" entries) := by
  constructor
  · rintro ⟨tagged, content⟩
    exact ⟨tagged, content⟩
  · rintro ⟨tagged, content⟩
    exact ⟨tagged, content⟩

theorem of_value_map_stopped_iff {entries : List (Value × Value)}
    (finite : Value.haveFinite entries = true) :
    Stopped (ofValue (.map entries)) ↔ Begun entries ∧
      ((Value.field "marks" entries).isTruthy = true ∧ (Value.field "marks" entries).isSingle = true ∨
        MarksReadable (Value.field "marks" entries) ∧
          (Stopped ((contentItems entries).mapM ofValue) ∨
            (∀ child ∈ contentItems entries, Returns (ofValue child)) ∧
              ∃ payload, Value.field "data" entries = .map payload ∧ SpansStop payload)) := by
  have contentFinite := Value.field_finite "content" finite
  have marksFinite := Value.field_finite "marks" finite
  have dataFinite := Value.field_finite "data" finite
  rw [of_value_map finite, begun_iff, and_assoc]
  apply stopped_after_iff (not_stopped_tag entries) (tagged_iff entries)
  intro tag
  apply stopped_after_iff (not_stopped_content tag _) (check_content_returns_iff tag contentFinite)
  intro _
  apply stopped_then_iff (marks_stopped_iff tag marksFinite) (marks_returns_iff tag _)
  intro marks
  apply stopped_then_iff Iff.rfl (returns_each_iff _ _)
  intro children
  rw [stopped_map_iff]
  exact payload_stopped_iff tag dataFinite

theorem content_of_items {entries : List (Value × Value)} {before after : List Value} {child : Value}
    (items : contentItems entries = before ++ child :: after) :
    Value.field "content" entries = .list (before ++ child :: after) := by
  unfold contentItems at items
  split at items
  · rename_i all same
    rw [same, items]
  · exact absurd items (by simp)

theorem items_finite {entries : List (Value × Value)} (finite : Value.haveFinite entries = true)
    {child : Value} (member : child ∈ contentItems entries) :
    child.isFinite = true ∧ sizeOf child < sizeOf (Value.map entries) := by
  have contentFinite := Value.field_finite "content" finite
  unfold contentItems at member
  split at member
  · rename_i items same
    rw [same] at contentFinite
    exact ⟨Value.finite_of_mem contentFinite member, Value.item_size "content" same member⟩
  · exact absurd member List.not_mem_nil

theorem map_stopped_iff {entries : List (Value × Value)} (finite : Value.haveFinite entries = true)
    (below : ∀ child ∈ contentItems entries, (Stopped (ofValue child) ↔ Stops child)) :
    Stopped (ofValue (.map entries)) ↔ Stops (.map entries) := by
  rw [of_value_map_stopped_iff finite, stopped_each_iff]
  constructor
  · rintro ⟨begun, ⟨present, single⟩ | ⟨marks, stops | ⟨readable, payload, data, stops⟩⟩⟩
    · exact .marks begun present single
    · obtain ⟨before, child, after, items, readable, stops⟩ := stops
      have member : child ∈ contentItems entries := by simp [items]
      exact .child begun marks (content_of_items items) readable ((below child member).mp stops)
    · exact .span begun marks readable data stops
  · intro stops
    cases stops with
    | marks begun present single => exact ⟨begun, .inl ⟨present, single⟩⟩
    | @child _ before after child begun marks content readable stops =>
        have items : contentItems entries = before ++ child :: after := by
          rw [contentItems, content]
        have member : child ∈ contentItems entries := by simp [items]
        exact ⟨begun, .inr ⟨marks, .inl
          ⟨before, child, after, items, readable, (below child member).mpr stops⟩⟩⟩
    | span begun marks readable data stops =>
        exact ⟨begun, .inr ⟨marks, .inr ⟨readable, _, data, stops⟩⟩⟩

/-- A finite value stops the reader exactly if it comes to one of the two shapes. -/
theorem of_value_stopped_iff : (value : Value) → value.isFinite = true →
    (Stopped (ofValue value) ↔ Stops value)
  | .map entries, finite => by
      apply map_stopped_iff finite
      intro child member
      have inner := items_finite finite member
      exact of_value_stopped_iff child inner.1
  | .loop label inner, finite => absurd finite nofun
  | .again label shape, finite => absurd finite nofun
  | .null, _ | .bool _, _ | .int _, _ | .float _, _ | .text _, _ | .bytes _, _ | .date _, _
  | .instant _, _ | .list _, _ | .set _, _ | .pair _ _, _ => by
      constructor
      · intro stops
        exact absurd stops (not_stopped_error rfl)
      · rintro ⟨⟩
termination_by value => sizeOf value
decreasing_by exact inner.2

end Node

end RichText
