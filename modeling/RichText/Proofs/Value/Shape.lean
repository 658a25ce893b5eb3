import RichText.Value

/-!
Shapes of values. A single value is not made of others; a finite one has no collection in it that
contains itself. A finite value is read field by field, and every field of it is smaller.
-/

namespace RichText.Value

/-- A value that is not made of others. -/
def isSingle : Value → Bool
  | .null | .bool _ | .int _ | .float _ | .date _ | .instant _ | .loop .. | .again .. => true
  | .list _ | .set _ | .map _ | .pair .. | .text _ | .bytes _ => false

theorem series_none_iff (value : Value) : value.series? = none ↔ value.opened.isSingle = true := by
  unfold series?
  cases value.opened <;> simp [isSingle]

/-! ## Finite values -/

mutual

def isFinite : Value → Bool
  | .list items => areFinite items
  | .map entries => haveFinite entries
  | .pair first second => first.isFinite && second.isFinite
  | .loop .. => false
  | .again .. => false
  | _ => true

def areFinite : List Value → Bool
  | [] => true
  | item :: items => item.isFinite && areFinite items

def haveFinite : List (Value × Value) → Bool
  | [] => true
  | (_, value) :: entries => value.isFinite && haveFinite entries

end

theorem opened_of_finite {value : Value} (finite : value.isFinite = true) : value.opened = value := by
  cases value with
  | loop label value => exact absurd finite nofun
  | _ => rfl

theorem finite_of_mem {items : List Value} {item : Value} (finite : areFinite items = true)
    (member : item ∈ items) : item.isFinite = true := by
  induction items with
  | nil => exact absurd member List.not_mem_nil
  | cons first items induction =>
      rw [areFinite, Bool.and_eq_true] at finite
      rcases List.mem_cons.mp member with rfl | later
      · exact finite.1
      · exact induction finite.2 later

/-! ## Fields -/

section Fields

variable (name : Text) {entries : List (Value × Value)}

theorem field_cons (key value : Value) (entries : List (Value × Value)) :
    field name ((key, value) :: entries) = value ∨
      field name ((key, value) :: entries) = field name entries := by
  unfold field
  cases key with
  | text other =>
      by_cases same : other = name
      · left
        rw [lookup, if_pos same, Option.getD_some]
      · right
        rw [lookup, if_neg same]
  | _ => exact .inr rfl

theorem field_finite (finite : haveFinite entries = true) : (field name entries).isFinite = true := by
  induction entries with
  | nil => rfl
  | cons entry entries induction =>
      obtain ⟨key, value⟩ := entry
      rw [haveFinite, Bool.and_eq_true] at finite
      rcases field_cons name key value entries with same | same
      · rw [same]
        exact finite.1
      · rw [same]
        exact induction finite.2

theorem field_size (entries : List (Value × Value)) : sizeOf (field name entries) ≤ sizeOf entries := by
  induction entries with
  | nil => simp [field, lookup]
  | cons entry entries induction =>
      obtain ⟨key, value⟩ := entry
      rw [List.cons.sizeOf_spec, Prod.mk.sizeOf_spec]
      rcases field_cons name key value entries with same | same
      · rw [same]
        omega
      · rw [same]
        omega

theorem item_size {items : List Value} {item : Value} (same : field name entries = .list items)
    (member : item ∈ items) : sizeOf item < sizeOf (Value.map entries) := by
  have whole := field_size name entries
  have part := List.sizeOf_lt_of_mem member
  rw [same, Value.list.sizeOf_spec] at whole
  rw [Value.map.sizeOf_spec]
  omega

end Fields

end RichText.Value
