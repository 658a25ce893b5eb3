import Mathlib.Data.List.GetD
import RichText.Config
import RichText.Proofs.Dataset.Selection

/-!
The shown part of a table: rows that a hint selects, cut down to some columns. A name means the first
column that carries it, and the columns are those that the names mean, each at its first place; where they
mean none but the key column, all others are shown.
-/

namespace RichText.Dataset

variable {header names : List Text} {name : Text} {keyColumn : Int} {column : Nat}

/-! ## Named columns -/

/-- The first column that carries a name, in normal form. -/
def FirstNamed (header : List Text) (name : Text) (column : Nat) : Prop :=
  column < header.length ∧ KeyMatch.normal (cellAt header column) = KeyMatch.normal name ∧
    ∀ earlier < column, KeyMatch.normal (cellAt header earlier) ≠ KeyMatch.normal name

theorem column_named_iff : columnNamed? header name = some column ↔ FirstNamed header name column := by
  have cell {index : Nat} (inside : index < header.length) : cellAt header index = header[index] :=
    List.getD_eq_getElem _ _ inside
  rw [columnNamed?, List.findIdx?_eq_some_iff_getElem]
  simp only [List.length_map, List.getElem_map, decide_eq_true_eq]
  constructor
  · rintro ⟨inside, same, before⟩
    refine ⟨inside, by rwa [cell inside], ?_⟩
    intro earlier less
    rw [cell (less.trans inside)]
    exact before earlier less
  · rintro ⟨inside, same, before⟩
    refine ⟨inside, by rwa [← cell inside], ?_⟩
    intro earlier less
    rw [← cell (less.trans inside)]
    exact before earlier less

theorem named_columns_eq (header : List Text) (keyColumn : Int) (names : List Text) :
    namedColumns header keyColumn names =
      ((names.filterMap (columnNamed? header)).filter fun column : Nat =>
        (column : Int) ≠ keyColumn).eraseDups := by
  rw [← Text.stored_eq, List.foldl_filter, List.foldl_filterMap, namedColumns]
  congr 1
  funext columns name
  cases columnNamed? header name with
  | none => rfl
  | some column =>
      by_cases other : (column : Int) = keyColumn
      · simp [other]
      · by_cases known : column ∈ columns <;> simp [other, known, Text.stored]

theorem mem_named_columns_iff : column ∈ namedColumns header keyColumn names ↔
    (∃ name ∈ names, FirstNamed header name column) ∧ (column : Int) ≠ keyColumn := by
  rw [named_columns_eq, List.mem_eraseDups, List.mem_filter, List.mem_filterMap]
  simp only [column_named_iff, decide_eq_true_eq]

theorem mem_other_columns_iff : column ∈ otherColumns header keyColumn ↔
    column < header.length ∧ (column : Int) ≠ keyColumn := by
  rw [otherColumns, List.mem_filter, List.mem_range, decide_eq_true_eq]

/-! ## Shown columns -/

theorem visible_columns_eq (header : List Text) (keyColumn : Int) (names : List Text) :
    visibleColumns header keyColumn names =
      if namedColumns header keyColumn names = [] then otherColumns header keyColumn
      else namedColumns header keyColumn names := by
  simp only [visibleColumns, List.isEmpty_iff]

/-- No name means a column other than the key column. -/
def Unmatched (header : List Text) (keyColumn : Int) (names : List Text) : Prop :=
  ∀ name ∈ names, ∀ column, FirstNamed header name column → (column : Int) = keyColumn

theorem unmatched_iff : Unmatched header keyColumn names ↔ namedColumns header keyColumn names = [] := by
  simp only [List.eq_nil_iff_forall_not_mem, mem_named_columns_iff, Unmatched]
  constructor
  · rintro unmatched column ⟨⟨name, member, first⟩, other⟩
    exact other (unmatched name member column first)
  · intro absent name member column first
    by_contra other
    exact absent column ⟨⟨name, member, first⟩, other⟩

/-- A column is shown for its name, or because no name fits. -/
theorem mem_visible_columns_iff : column ∈ visibleColumns header keyColumn names ↔
    column < header.length ∧ (column : Int) ≠ keyColumn ∧
      ((∃ name ∈ names, FirstNamed header name column) ∨ Unmatched header keyColumn names) := by
  rw [visible_columns_eq]
  split_ifs with none
  · have unmatched := unmatched_iff.mpr none
    simp only [mem_other_columns_iff, unmatched, or_true, and_true]
  · rw [mem_named_columns_iff, unmatched_iff, or_iff_left none]
    constructor
    · rintro ⟨⟨name, member, first⟩, other⟩
      exact ⟨first.1, other, name, member, first⟩
    · rintro ⟨-, other, named⟩
      exact ⟨named, other⟩

theorem visible_column_inside (shown : column ∈ visibleColumns header keyColumn names) :
    column < header.length ∧ (column : Int) ≠ keyColumn := by
  obtain ⟨inside, other, -⟩ := mem_visible_columns_iff.mp shown
  exact ⟨inside, other⟩

theorem visible_columns_nodup (header : List Text) (keyColumn : Int) (names : List Text) :
    (visibleColumns header keyColumn names).Nodup := by
  rw [visible_columns_eq]
  split_ifs
  · exact List.nodup_range.filter _
  · rw [named_columns_eq]
    exact Text.erase_dups_nodup _

/-! ## Selected rows -/

/-- The keys that a marker asks for: what its hint is resolved to, if it has one and there is a key
column. -/
def keysFor (dataset : Dataset) (marker : Marker) : List Text :=
  match marker.key with
  | some hint =>
      if hint ≠ [] ∧ 0 ≤ dataset.keyColumn ∧ dataset.keyColumn < dataset.header.length then
        (dataset.resolveKeys hint).value
      else []
  | none => []

theorem select_rows_keys (dataset : Dataset) (hint : Option Text) :
    (dataset.selectRows hint).value.1 =
      hint.elim [] fun hint =>
        if dataset.hasKeyColumn then (dataset.resolveKeys hint).value else [] := by
  unfold selectRows
  cases hint with
  | none => rfl
  | some hint =>
      simp only [Option.elim_some]
      split_ifs with keyed
      · rw [Noted.bind_value]
        by_cases unmatched : (dataset.resolveKeys hint).value = []
        · rw [unmatched]
          rfl
        · rw [if_neg (List.isEmpty_iff.not.mpr unmatched)]
          rfl
      · rfl

theorem keys_for_eq (dataset : Dataset) (marker : Marker) :
    (dataset.selectRows marker.keyHint?).value.1 = dataset.keysFor marker := by
  rw [select_rows_keys, keysFor, Marker.keyHint?]
  cases marker.key with
  | none => rfl
  | some hint =>
      cases hint with
      | nil => rfl
      | cons char rest =>
          have present : (some (char :: rest)).filter (fun key : Text => !key.isEmpty) =
              some (char :: rest) := rfl
          simp only [present, Option.elim_some, hasKeyColumn, Bool.and_eq_true, decide_eq_true_eq,
            ne_eq, reduceCtorEq, not_false_eq_true, true_and]

theorem kept_rows_eq (dataset : Dataset) (keys : List Text) :
    dataset.keptRows keys = dataset.rows.filter fun row =>
      keys = [] ∨ KeyMatch.normal (cellAt row dataset.keyColumn.toNat) ∈ keys := by
  unfold keptRows rowsWithKeys
  split_ifs with none
  · simp [none]
  · simp [none]

/-! ## Selection and projection -/

theorem header_projected {columns : List Nat}
    (inside : ∀ column ∈ columns, column < header.length) :
    (columns.map fun column => cellAt header column).map some =
      columns.map fun column => header[column]? := by
  rw [List.map_map]
  apply List.map_congr_left
  intro column member
  have present := inside column member
  rw [Function.comp_apply, cellAt, List.getD_eq_getElem _ _ present, List.getElem?_eq_getElem present]

/-- A table is a selection of rows, followed by a projection on columns. The rows are those with a key
that the hint is resolved to, in their order and as often as they occur; all rows, where it is resolved to
none. The columns are the first ones with the names, each once and without the key column; all columns but
that, where no name is left. -/
theorem selected_and_projected (dataset : Dataset) (marker : Marker) (settings : TableSettings)
    (displayed : Option (List Text)) :
    let names := displayed.getD settings.displayColumns
    let keys := dataset.keysFor marker
    let named := ((names.filterMap (columnNamed? dataset.header)).filter fun column : Nat =>
      (column : Int) ≠ dataset.keyColumn).eraseDups
    let table := (dataset.select marker.keyHint? names).value
    (∀ name column, columnNamed? dataset.header name = some column ↔
        FirstNamed dataset.header name column) ∧
      ∃ columns : List Nat, columns.Nodup ∧
        (∀ column ∈ columns, column < dataset.header.length ∧ (column : Int) ≠ dataset.keyColumn) ∧
        columns = (if named = [] then (List.range dataset.header.length).filter fun column : Nat =>
          (column : Int) ≠ dataset.keyColumn else named) ∧
        table.header.map some = (columns.map fun column => dataset.header[column]?) ∧
        table.rows = (dataset.rows.filter fun row =>
          keys = [] ∨ KeyMatch.normal (cellAt row dataset.keyColumn.toNat) ∈ keys).map
            (fun row => columns.map fun column => row[column]?.getD []) ∧
        table.keys = keys := by
  intro names keys named table
  have chosen : (dataset.selectRows marker.keyHint?).value.1 = keys := keys_for_eq dataset marker
  have kept : (dataset.selectRows marker.keyHint?).value.2 = dataset.rows.filter fun row =>
      keys = [] ∨ KeyMatch.normal (cellAt row dataset.keyColumn.toNat) ∈ keys := by
    rw [select_rows_kept, chosen, kept_rows_eq]
  refine ⟨fun name column => column_named_iff,
    visibleColumns dataset.header dataset.keyColumn names, visible_columns_nodup _ _ _,
    fun column => visible_column_inside, ?_, ?_, ?_, chosen⟩
  · rw [visible_columns_eq, named_columns_eq]
    rfl
  · exact header_projected fun column member => (visible_column_inside member).1
  · rw [← kept]
    simp only [← List.getD_eq_getElem?_getD]
    rfl

/-- Two columns of one name, a short row, and names of which one means the key column and one a column
that is shown already. -/
theorem ragged_table_projected :
    let dataset : Dataset :=
      { id := "t", header := ["Name", "Key", " name ", "Phone"], keyColumn := 1,
        knownKeys := ["agency", "food"],
        rows := [["Ann", " AGENCY", "x", "1"], ["Bob", "food"], ["Cay", "agency"]] }
    let marker : Marker := { kind := .table, id := "t", key := some "area-agency" }
    let table := (dataset.select marker.keyHint? ["phone", "KEY", "NAME", "Phone "]).value
    ∃ columns : List Nat, columns = [3, 0] ∧ (∀ column ∈ columns, column < 4 ∧ (column : Int) ≠ 1) ∧
      table.header.map some = (columns.map fun column => dataset.header[column]?) ∧
        table = ⟨["Phone", "Name"], [["1", "Ann"], ["", "Cay"]], ["agency"]⟩ := by
  intro dataset marker table
  obtain ⟨-, columns, -, inside, chosen, header, -, -⟩ :=
    selected_and_projected dataset marker {} (some ["phone", "KEY", "NAME", "Phone "])
  refine ⟨columns, chosen.trans ?_, inside, header, ?_⟩
  · decide +kernel
  · decide +kernel

end RichText.Dataset
