import RichText.Checked

/-!
What becomes of a reading of several parts. It cannot be made at all exactly if one of the parts cannot,
whatever is wrong with the others; single texts, and fields that must be there, always can. It has no
issues exactly if no part has any.
-/

namespace RichText.Checked

variable {α β : Type}

theorem map_unreadable_iff (change : α → β) (checked : Checked α) :
    checked.map change = .unreadable ↔ checked = .unreadable := by
  cases checked <;> simp [map]

theorem pair_unreadable_iff (first : Checked α) (second : Checked β) :
    pair first second = .unreadable ↔ first = .unreadable ∨ second = .unreadable := by
  cases first <;> cases second <;> simp [pair]

theorem change_unreadable_iff (change : α → β) (checked : Checked α) :
    change <$> checked = .unreadable ↔ checked = .unreadable := by
  have same : change <$> checked = (pair (.valid change) checked).map fun both => both.1 both.2 := rfl
  rw [same, map_unreadable_iff, pair_unreadable_iff]
  simp

theorem seq_unreadable_iff (change : Checked (α → β)) (checked : Checked α) :
    change <*> checked = .unreadable ↔ change = .unreadable ∨ checked = .unreadable := by
  have same : change <*> checked = (pair change checked).map fun both => both.1 both.2 := rfl
  rw [same, map_unreadable_iff, pair_unreadable_iff]

theorem all_unreadable_iff (parts : List (Checked α)) : all parts = .unreadable ↔ .unreadable ∈ parts := by
  induction parts with
  | nil => simp [all]
  | cons first others induction =>
      rw [all, map_unreadable_iff, pair_unreadable_iff, induction, List.mem_cons, eq_comm]

theorem under_unreadable_iff (step : Step) (checked : Checked α) :
    checked.under step = .unreadable ↔ checked = .unreadable := by
  cases checked <;> simp [under]

theorem and_then_unreadable_iff (checked : Checked α) (next : α → Checked β) :
    checked.andThen next = .unreadable ↔
      checked = .unreadable ∨ ∃ value, checked = .valid value ∧ next value = .unreadable := by
  cases checked <;> simp [andThen]

/-! ## Parts that are always looked at -/

theorem text_readable (value : Value) : text value ≠ .unreadable := by
  cases value with
  | bytes value =>
      rw [text]
      cases Text.Utf8.decode value <;> exact nofun
  | _ => exact nofun

theorem text_or_null_readable (value : Value) : textOrNull value ≠ .unreadable := by
  cases value with
  | null => exact nofun
  | _ =>
      unfold textOrNull
      rw [Ne, map_unreadable_iff]
      exact text_readable _

section Fields

variable (name other : Text) (default : α) {check : Value → Checked α} (entries : List (Value × Value))

theorem optional_unreadable_iff :
    optional name default check entries = .unreadable ↔
      ∃ value, Value.lookup name entries = some value ∧ check value = .unreadable := by
  unfold optional
  cases Value.lookup name entries with
  | none => simp
  | some value => simp [under_unreadable_iff]

theorem optional_readable (readable : ∀ value, check value ≠ .unreadable) :
    optional name default check entries ≠ .unreadable := by
  rw [Ne, optional_unreadable_iff]
  rintro ⟨value, -, fails⟩
  exact readable value fails

theorem optional_either_readable (readable : ∀ value, check value ≠ .unreadable) :
    optionalEither name other default check entries ≠ .unreadable := by
  unfold optionalEither
  cases Value.lookup name entries with
  | none => exact optional_readable other default entries readable
  | some value => simp [under_unreadable_iff, readable]

theorem required_readable (readable : ∀ value, check value ≠ .unreadable) :
    required name check entries ≠ .unreadable := by
  unfold required
  cases Value.lookup name entries with
  | none => exact nofun
  | some value => simp [under_unreadable_iff, readable]

theorem required_either_readable (readable : ∀ value, check value ≠ .unreadable) :
    requiredEither name other check entries ≠ .unreadable := by
  unfold requiredEither
  cases Value.lookup name entries with
  | some value => simp [under_unreadable_iff, readable]
  | none =>
      cases Value.lookup other entries with
      | none => exact nofun
      | some value => simp [under_unreadable_iff, readable]

end Fields

/-! ## Mappings -/

theorem fields_unreadable_iff (check : List (Value × Value) → Checked α) (value : Value) :
    fields check value = .unreadable ↔
      ∃ entries, value.opened = .map entries ∧ check entries = .unreadable := by
  unfold fields
  cases value.opened <;> simp [fail]

theorem mapping_unreadable_iff (check : Value → Checked α) (value : Value) :
    mapping check value = .unreadable ↔
      ∃ entries key item, value.opened = .map entries ∧ (key, item) ∈ entries ∧
        check item = .unreadable := by
  have item_unreadable (item : Value × Value) :
      entry check item = .unreadable ↔ check item.2 = .unreadable := by
    simp [entry, pair_unreadable_iff, under_unreadable_iff, text_readable]
  unfold mapping
  cases value.opened <;> simp [fail, all_unreadable_iff, item_unreadable]

/-! ## Readings without issues -/

section Valid

theorem under_valid_iff (step : Step) (checked : Checked α) {value : α} :
    checked.under step = .valid value ↔ checked = .valid value := by
  cases checked <;> simp [under]

theorem map_valid_iff (change : α → β) (checked : Checked α) {result : β} :
    checked.map change = .valid result ↔ ∃ value, checked = .valid value ∧ change value = result := by
  cases checked <;> simp [map]

theorem pair_valid_iff (first : Checked α) (second : Checked β) {both : α × β} :
    pair first second = .valid both ↔ first = .valid both.1 ∧ second = .valid both.2 := by
  cases first <;> cases second <;> simp [pair, Prod.ext_iff]

theorem seq_valid_iff (change : Checked (α → β)) (checked : Checked α) {result : β} :
    change <*> checked = .valid result ↔
      ∃ build value, change = .valid build ∧ checked = .valid value ∧ build value = result := by
  have same : change <*> checked = (pair change checked).map fun both => both.1 both.2 := rfl
  simp only [same, map_valid_iff, pair_valid_iff, Prod.exists, and_assoc]

theorem change_valid_iff (change : α → β) (checked : Checked α) {result : β} :
    change <$> checked = .valid result ↔ ∃ value, checked = .valid value ∧ change value = result := by
  have same : change <$> checked = checked.map change := by cases checked <;> rfl
  rw [same, map_valid_iff]

theorem all_valid_iff (parts : List (Checked α)) {values : List α} :
    all parts = .valid values ↔ parts = values.map .valid := by
  induction parts generalizing values with
  | nil => cases values <;> simp [all]
  | cons first others induction =>
      rw [all, map_valid_iff]
      simp only [Prod.exists, pair_valid_iff, induction]
      cases values with
      | nil => simp
      | cons value values => simp

theorem exists_all_valid_iff (parts : List (Checked α)) :
    (∃ values, all parts = .valid values) ↔ ∀ part ∈ parts, ∃ value, part = .valid value := by
  simp only [all_valid_iff]
  induction parts with
  | nil => exact iff_of_true ⟨[], rfl⟩ (List.forall_mem_nil _)
  | cons part parts induction =>
      rw [List.forall_mem_cons, ← induction]
      constructor
      · rintro ⟨values, same⟩
        obtain ⟨value, others, -, first, rest⟩ := List.map_eq_cons_iff.mp same.symm
        exact ⟨⟨value, first.symm⟩, others, rest.symm⟩
      · rintro ⟨⟨value, rfl⟩, values, rfl⟩
        exact ⟨value :: values, rfl⟩

theorem entry_valid_iff (check : Value → Checked α) (item : Value × Value) {result : Text × α} :
    entry check item = .valid result ↔
      text item.1 = .valid result.1 ∧ check item.2 = .valid result.2 := by
  simp only [entry, pair_valid_iff, under_valid_iff]

end Valid

end RichText.Checked
