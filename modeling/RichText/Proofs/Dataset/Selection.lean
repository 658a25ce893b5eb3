import RichText.Dataset.Selection
import RichText.Proofs.KeyMatch
import RichText.Proofs.Traced

/-!
The rows that a key hint keeps. A hint is resolved to keys that some row has, and it selects rows only
where it is resolved at all; so it keeps a row of every key that it means, and it never leaves a table
empty that holds rows.
-/

namespace RichText

namespace Dataset

variable {dataset : Dataset} {hint key : Text} {keys : List Text}

/-- Every known key is the key of some row. -/
def Keyed (dataset : Dataset) : Prop :=
  ∀ key ∈ KeyMatch.normalKeys dataset.knownKeys, ∃ row ∈ dataset.rows,
    KeyMatch.normal (cellAt row dataset.keyColumn.toNat) = key

theorem of_rows_keyed (id title : Text) (header : List Text) (rows : List (List Text))
    (keyName : Option Text) (keyColumn : Option Int) :
    Keyed (ofRows id title header rows keyName keyColumn) := by
  rw [ofRows]
  cases keyColumnOf header keyName keyColumn with
  | none =>
      intro key member
      obtain ⟨⟨cell, inside, -⟩, -⟩ := KeyMatch.mem_normal_keys.mp member
      exact absurd inside List.not_mem_nil
  | some column =>
      intro key member
      obtain ⟨⟨cell, inside, same⟩, -⟩ :=
        KeyMatch.mem_normal_keys.mp (KeyMatch.of_mem_normal_keys_twice member)
      obtain ⟨row, stored, rfl⟩ := List.mem_map.mp inside
      exact ⟨row, stored, same⟩

theorem resolved_values_known {values : List Text}
    (member : key ∈ (resolveValues keys values).value) : key ∈ KeyMatch.normalKeys keys := by
  induction values with
  | nil => exact absurd member List.not_mem_nil
  | cons value values induction =>
      rcases List.mem_append.mp member with first | later
      · exact KeyMatch.resolved_mem (Option.mem_toList.mp first)
      · exact induction later

theorem resolved_keys_known (member : key ∈ (dataset.resolveKeys hint).value) :
    key ∈ KeyMatch.normalKeys dataset.knownKeys :=
  resolved_values_known ((Text.mem_distinct _).mp member)

/-- Either all rows are kept and no key is named, or there are keys and their rows are kept. -/
theorem select_rows_cases (dataset : Dataset) (hint : Option Text) :
    (dataset.selectRows hint).value = ([], dataset.rows) ∨
      ∃ keys, keys ≠ [] ∧ (∀ key ∈ keys, key ∈ KeyMatch.normalKeys dataset.knownKeys) ∧
        dataset.hasKeyColumn = true ∧
          (dataset.selectRows hint).value = (keys, dataset.rowsWithKeys keys) := by
  unfold selectRows
  split
  · exact .inl rfl
  · rename_i hint
    split_ifs with keyed
    · simp only [Noted.bind_value]
      by_cases unmatched : (dataset.resolveKeys hint).value = []
      · left
        rw [unmatched]
        rfl
      · right
        rw [if_neg (List.isEmpty_iff.not.mpr unmatched)]
        exact ⟨_, unmatched, fun key => resolved_keys_known, keyed, rfl⟩
    · exact .inl rfl

/-- The rows with some keys; without keys all rows. -/
def keptRows (dataset : Dataset) (keys : List Text) : List (List Text) :=
  if keys = [] then dataset.rows else dataset.rowsWithKeys keys

/-- The keys that a table names are those of its rows. -/
theorem select_rows_kept (dataset : Dataset) (hint : Option Text) :
    (dataset.selectRows hint).value.2 = dataset.keptRows (dataset.selectRows hint).value.1 := by
  unfold keptRows
  rcases select_rows_cases dataset hint with all | ⟨keys, present, -, -, some⟩
  · rw [all, if_pos rfl]
  · rw [some, if_neg present]

theorem row_kept (known : Keyed dataset) (member : key ∈ keys)
    (meant : key ∈ KeyMatch.normalKeys dataset.knownKeys) : ∃ row ∈ dataset.rowsWithKeys keys,
      KeyMatch.normal (cellAt row dataset.keyColumn.toNat) = key := by
  obtain ⟨row, stored, same⟩ := known key meant
  refine ⟨row, ?_, same⟩
  rw [rowsWithKeys, List.mem_filter, same]
  exact ⟨stored, List.contains_iff_mem.mpr member⟩

theorem rows_with_keys_empty_iff (known : Keyed dataset) (present : keys ≠ [])
    (meant : ∀ key ∈ keys, key ∈ KeyMatch.normalKeys dataset.knownKeys) :
    dataset.rowsWithKeys keys = [] ↔ dataset.rows = [] := by
  constructor
  · intro empty
    obtain ⟨key, member⟩ := List.exists_mem_of_ne_nil keys present
    obtain ⟨row, inside, -⟩ := row_kept known member (meant key member)
    rw [empty] at inside
    exact absurd inside List.not_mem_nil
  · intro empty
    rw [rowsWithKeys, empty, List.filter_nil]

/-- The shown part of a row. -/
def shownCells (dataset : Dataset) (names row : List Text) : List Text :=
  (visibleColumns dataset.header dataset.keyColumn names).map fun column => cellAt row column

/-- A key hint never empties a table: the shown rows are those of the kept ones, all of them or those
with a key that the hint is resolved to; there are none only where the table has none, and every such
key has a row that is kept. -/
theorem hint_keeps_rows (id title : Text) (header : List Text) (rows : List (List Text))
    (keyName : Option Text) (keyColumn : Option Int) (marker : Marker) (names : List Text) :
    let dataset := ofRows id title header rows keyName keyColumn
    let kept := (dataset.selectRows marker.keyHint?).value.2
    let table := (dataset.select marker.keyHint? names).value
    table.rows = kept.map (dataset.shownCells names) ∧
      kept = (if table.keys = [] then dataset.rows else dataset.rowsWithKeys table.keys) ∧
        (table.rows = [] ↔ dataset.rows = []) ∧
          ∀ key ∈ table.keys, dataset.hasKeyColumn = true ∧
            ∃ row ∈ kept, KeyMatch.normal (cellAt row dataset.keyColumn.toNat) = key := by
  intro dataset kept table
  have known : Keyed dataset := of_rows_keyed id title header rows keyName keyColumn
  have shown : table.rows = kept.map (dataset.shownCells names) := rfl
  have named : table.keys = (dataset.selectRows marker.keyHint?).value.1 := rfl
  refine ⟨shown, ?_⟩
  rw [shown, List.map_eq_nil_iff, named]
  rcases select_rows_cases dataset marker.keyHint? with
    all | ⟨keys, present, meant, keyed, some⟩
  · have same : kept = dataset.rows := congrArg Prod.snd all
    rw [same, all]
    exact ⟨(if_pos rfl).symm, Iff.rfl, fun key member => absurd member List.not_mem_nil⟩
  · have same : kept = dataset.rowsWithKeys keys := congrArg Prod.snd some
    rw [same, some]
    refine ⟨(if_neg present).symm, rows_with_keys_empty_iff known present meant, ?_⟩
    intro key member
    exact ⟨keyed, row_kept known member (meant key member)⟩

/-- Keys in any letter case, one of them in a row that is too short, and a hint for both. -/
theorem clinic_row_kept :
    let dataset := ofRows "t" [] ["Key", "name"] [["AGENCY ", "Ann"], ["clinic"]] (some "key") none
    let marker : Marker := { kind := .table, id := "t", key := some "area-agency , Clinics" }
    (dataset.select marker.keyHint? []).value =
        ⟨["name"], [["Ann"], [[]]], ["agency", "clinic"]⟩ ∧
      ∃ row ∈ (dataset.selectRows marker.keyHint?).value.2,
        KeyMatch.normal (cellAt row dataset.keyColumn.toNat) = "clinic".toList := by
  intro dataset marker
  have table : (dataset.select marker.keyHint? []).value =
      ⟨["name"], [["Ann"], [[]]], ["agency", "clinic"]⟩ := by decide +kernel
  have named : "clinic".toList ∈ (dataset.select marker.keyHint? []).value.keys := by
    rw [table]
    decide
  obtain ⟨-, -, -, keys⟩ := hint_keeps_rows "t" [] ["Key", "name"] [["AGENCY ", "Ann"], ["clinic"]]
    (some "key") none marker []
  exact ⟨table, (keys _ named).2⟩

end Dataset

end RichText
