import Mathlib.Tactic.SplitIfs
import RichText.Value

/-!
Labels that are filled in. A collection that occurs again among its own values stands there as a label;
putting it in the place of the label changes what fields hold, but not which fields there are. A property
of fields that survives this is one of the collection however often it is gone into.
-/

namespace RichText.Value

/-- A collection, with a label if it occurs again among its own values. -/
def labelled : Option Nat → Value → Value
  | none, value => value
  | some label, value => .loop label value

/-- A property of fields that does not depend on what labels stand for. -/
def Kept (holds : List (Value × Value) → Prop) : Prop :=
  ∀ label whole entries, holds entries → holds (filledEntries label whole entries)

section Filled

variable (label : Nat) (whole : Value)

theorem lookup_filled (name : Text) (entries : List (Value × Value)) :
    lookup name (filledEntries label whole entries) =
      (lookup name entries).map (filled label whole) := by
  induction entries with
  | nil => rfl
  | cons entry entries induction =>
      obtain ⟨key, value⟩ := entry
      rw [filledEntries]
      cases key with
      | text other =>
          by_cases same : other = name
          · rw [lookup, lookup, if_pos same, if_pos same]
            rfl
          · rw [lookup, lookup, if_neg same, if_neg same, induction]
      | _ => exact induction

theorem field_filled (name : Text) (entries : List (Value × Value)) :
    field name (filledEntries label whole entries) = filled label whole (field name entries) := by
  rw [field, field, lookup_filled]
  cases lookup name entries with
  | none => rfl
  | some value => rfl

theorem filled_items_eq (items : List Value) :
    filledItems label whole items = items.map (filled label whole) := by
  induction items with
  | nil => rfl
  | cons item items induction => rw [filledItems, induction, List.map_cons]

/-- Filling in a label goes into a collection, unless the label is the one of the collection. -/
theorem filled_labelled_cases (own : Option Nat) (inner : Value) :
    filled label whole (labelled own inner) = labelled own inner ∨
      filled label whole (labelled own inner) = labelled own (filled label whole inner) := by
  cases own with
  | none => exact .inr rfl
  | some given =>
      rw [labelled, filled]
      split_ifs
      · exact .inl rfl
      · exact .inr rfl

theorem filled_mapping {holds : List (Value × Value) → Prop} {entries : List (Value × Value)}
    (kept : Kept holds) (own : Option Nat) (here : holds entries) : ∃ others,
      filled label whole (labelled own (.map entries)) = labelled own (.map others) ∧ holds others := by
  rcases filled_labelled_cases label whole own (.map entries) with same | inside
  · exact ⟨entries, same, here⟩
  · exact ⟨filledEntries label whole entries, inside, kept label whole entries here⟩

end Filled

theorem opened_mapping {holds : List (Value × Value) → Prop} {entries : List (Value × Value)}
    (kept : Kept holds) (own : Option Nat) (here : holds entries) :
    ∃ others, (labelled own (.map entries)).opened = .map others ∧ holds others := by
  cases own with
  | none => exact ⟨entries, rfl, here⟩
  | some label => exact ⟨_, rfl, kept label (.loop label (.map entries)) entries here⟩

theorem labelled_truthy (own : Option Nat) (inner : Value) :
    (labelled own inner).isTruthy = inner.isTruthy := by
  cases own with
  | none => rfl
  | some label => rw [labelled, isTruthy]

theorem lookup_text_kept (name value : Text) :
    Kept fun entries => lookup name entries = some (.text value) := by
  intro label whole entries found
  rw [lookup_filled, found]
  rfl

theorem lookup_none_kept (name : Text) : Kept fun entries => lookup name entries = none := by
  intro label whole entries missing
  rw [lookup_filled, missing]
  rfl

end RichText.Value
