import Mathlib.Data.List.Forall2
import RichText.Proofs.Dataset.Columns

/-!
What building a dataset does to rows of any length. Every row gets the width of the header, with its own
cells as far as it has them, and the known keys are the cells of the key column in normal form, each at
its first row. Building the dataset from its own parts once more changes nothing.
-/

namespace RichText.Dataset

variable {header : List Text} {row : List Text} {keyName : Option Text} {keyColumn : Option Int}
  {width column : Nat}

/-! ## Rows -/

/-- A row of a width that holds the cells of another row, and empty ones where that row ends. -/
def FittedTo (width : Nat) (row fittedRow : List Text) : Prop :=
  fittedRow.length = width ∧ ∀ column < width, fittedRow[column]? = some (cellAt row column)

theorem fitted_length (width : Nat) (row : List Text) : (fitted width row).length = width := by
  rw [fitted, List.length_append, List.length_take, List.length_replicate]
  omega

theorem fitted_cell (inside : column < width) :
    (fitted width row)[column]? = some (cellAt row column) := by
  unfold fitted cellAt
  rcases Nat.lt_or_ge column row.length with present | missing
  · have early : column < (row.take width).length := by
      rw [List.length_take]
      omega
    rw [List.getElem?_append_left early, List.getElem?_take_of_lt inside,
      List.getD_eq_getElem _ _ present, List.getElem?_eq_getElem present]
  · have late : (row.take width).length ≤ column := by
      rw [List.length_take]
      omega
    rw [List.getElem?_append_right late, List.getD_eq_default _ _ missing,
      List.getElem?_replicate_of_lt]
    rw [List.length_take]
    omega

theorem fitted_fits (width : Nat) (row : List Text) : FittedTo width row (fitted width row) :=
  ⟨fitted_length width row, fun _ inside => fitted_cell inside⟩

theorem cell_at_fitted (inside : column < width) :
    cellAt (fitted width row) column = cellAt row column := by
  have cell := @fitted_cell row width column inside
  rw [cellAt, List.getD_eq_getElem?_getD, cell, Option.getD_some]

theorem fitted_fitted (width : Nat) (row : List Text) :
    fitted width (fitted width row) = fitted width row := by
  have exact := fitted_length width row
  rw [fitted, exact, Nat.sub_self, List.replicate_zero, List.append_nil,
    List.take_of_length_le exact.le]

/-! ## The key column -/

/-- The column with the keys: the given one if the table has it, otherwise the first column that carries
the given name. -/
def IsKeyColumn (header : List Text) (keyName : Option Text) (keyColumn : Option Int) (column : Nat) :
    Prop :=
  keyColumn = some (column : Int) ∧ column < header.length ∨
    (∀ given ∈ keyColumn, ¬(0 ≤ given ∧ given < header.length)) ∧
      ∃ name ∈ keyName, name ≠ [] ∧ FirstNamed header name column

theorem IsKeyColumn.inside (isKey : IsKeyColumn header keyName keyColumn column) :
    column < header.length := by
  rcases isKey with ⟨-, inside⟩ | ⟨-, name, -, -, first⟩
  · exact inside
  · exact first.1

theorem key_name_column_iff :
    ((keyName.filter fun name => !name.isEmpty).bind (columnNamed? header)) = some column ↔
      ∃ name ∈ keyName, name ≠ [] ∧ FirstNamed header name column := by
  rw [Option.bind_eq_some_iff]
  simp only [Option.filter_eq_some_iff, column_named_iff, Bool.not_eq_true',
    List.isEmpty_eq_false_iff, and_assoc, Option.mem_def]

theorem key_column_of_iff : keyColumnOf header keyName keyColumn = some column ↔
    IsKeyColumn header keyName keyColumn column := by
  unfold keyColumnOf IsKeyColumn
  by_cases listed : ∃ given, keyColumn = some given ∧ 0 ≤ given ∧ given < header.length
  · obtain ⟨given, rfl, bounds⟩ := listed
    have kept : (some given).filter (fun given : Int => 0 ≤ given && given < header.length) =
        some given := by
      simp [bounds]
    have present : ¬∀ other ∈ some given, ¬(0 ≤ other ∧ other < (header.length : Int)) :=
      fun outside => outside given rfl bounds
    simp only [kept, Option.some.injEq, present, false_and, or_false]
    omega
  · have outside : ∀ given ∈ keyColumn, ¬(0 ≤ given ∧ given < (header.length : Int)) :=
      fun given same bounds => listed ⟨given, same, bounds⟩
    have dropped : keyColumn.filter (fun given : Int => 0 ≤ given && given < header.length) = none := by
      simpa [Option.filter_eq_none_iff] using outside
    have other : ¬(keyColumn = some (column : Int) ∧ column < header.length) := by
      rintro ⟨same, inside⟩
      exact outside column same (by omega)
    simp only [dropped, key_name_column_iff, other, false_or]
    exact (and_iff_right outside).symm

/-! ## Built datasets -/

section Built

variable (id title : Text) (rows : List (List Text))

theorem of_rows_without_column (none : keyColumnOf header keyName keyColumn = none) :
    ofRows id title header rows keyName keyColumn =
      { id, title, header, rows := rows.map (fitted header.length) } := by
  rw [ofRows, none]

/-- The keys are read from the given rows, or from the fitted ones, which is the same. -/
theorem of_rows_with_column (found : keyColumnOf header keyName keyColumn = some column) :
    ofRows id title header rows keyName keyColumn =
      { id, title, header, rows := rows.map (fitted header.length), keyColumn := column
        knownKeys := keysIn column rows } := by
  have inside := (key_column_of_iff.mp found).inside
  have same : keysIn column (rows.map (fitted header.length)) = keysIn column rows := by
    rw [keysIn, keysIn, List.map_map]
    exact congrArg KeyMatch.normalKeys
      (List.map_congr_left fun row _ => cell_at_fitted inside)
  rw [ofRows, found]
  simp only [same]

theorem of_rows_twice :
    ofRows id title header (rows.map (fitted header.length)) keyName keyColumn =
      ofRows id title header rows keyName keyColumn := by
  have same : (rows.map (fitted header.length)).map (fitted header.length) =
      rows.map (fitted header.length) := by
    rw [List.map_map]
    exact List.map_congr_left fun row _ => fitted_fitted header.length row
  rw [ofRows, ofRows, same]

theorem of_rows_rebuilt :
    let dataset := ofRows id title header rows keyName keyColumn
    ofRows dataset.id dataset.title dataset.header dataset.rows keyName keyColumn = dataset := by
  have twice := @of_rows_twice header keyName keyColumn id title rows
  cases found : keyColumnOf header keyName keyColumn with
  | none =>
      rw [of_rows_without_column id title rows found] at twice ⊢
      exact twice
  | some column =>
      rw [of_rows_with_column id title rows found] at twice ⊢
      exact twice

end Built

theorem keys_in_eq (column : Nat) (rows : List (List Text)) :
    keysIn column rows = ((rows.map fun row => KeyMatch.normal (cellAt row column)).filter
      fun key => key ≠ []).eraseDups := by
  rw [keysIn, KeyMatch.normal_keys_eq, List.map_map]
  rfl

theorem key_in_normal {key : Text} {rows : List (List Text)} (member : key ∈ keysIn column rows) :
    key ≠ [] ∧ Text.trim key = key :=
  ⟨(KeyMatch.mem_normal_keys.mp member).2, KeyMatch.trim_of_normal (KeyMatch.normal_of_mem member)⟩

/-- What every dataset is like that is built of rows. The rows are the given ones in their order, each as
wide as the header, with its own cells and empty ones behind them. The key column is in the table or there
is none, and the known keys are the trimmed small-letter texts in that column that are not blank, each at
its first row. Building the dataset from its own parts gives the same dataset. -/
theorem built_in_normal_form (id title : Text) (header : List Text) (rows : List (List Text))
    (keyName : Option Text) (keyColumn : Option Int) :
    let dataset := ofRows id title header rows keyName keyColumn
    dataset.id = id ∧ dataset.title = title ∧ dataset.header = header ∧
      List.Forall₂ (FittedTo header.length) rows dataset.rows ∧
      (dataset.keyColumn = -1 ∧ dataset.knownKeys = [] ∧
          (∀ column, ¬IsKeyColumn header keyName keyColumn column) ∨
        ∃ column < header.length, IsKeyColumn header keyName keyColumn column ∧
          dataset.keyColumn = column ∧
            dataset.knownKeys = ((rows.map fun row => KeyMatch.normal (cellAt row column)).filter
              fun key => key ≠ []).eraseDups) ∧
      dataset.knownKeys.Nodup ∧ (∀ key ∈ dataset.knownKeys, key ≠ [] ∧ Text.trim key = key) ∧
      ofRows dataset.id dataset.title dataset.header dataset.rows keyName keyColumn = dataset := by
  have rebuilt := @of_rows_rebuilt header keyName keyColumn id title rows
  have fittedRows : List.Forall₂ (FittedTo header.length) rows (rows.map (fitted header.length)) := by
    rw [List.forall₂_map_right_iff, List.forall₂_same]
    exact fun row _ => fitted_fits header.length row
  cases found : keyColumnOf header keyName keyColumn with
  | none =>
      have absent : ∀ column, ¬IsKeyColumn header keyName keyColumn column := by
        intro column isKey
        rw [← key_column_of_iff, found] at isKey
        exact absurd isKey nofun
      rw [of_rows_without_column id title rows found] at rebuilt ⊢
      exact ⟨rfl, rfl, rfl, fittedRows, .inl ⟨rfl, rfl, absent⟩, List.nodup_nil,
        List.forall_mem_nil _, rebuilt⟩
  | some column =>
      have isKey := key_column_of_iff.mp found
      rw [of_rows_with_column id title rows found] at rebuilt ⊢
      exact ⟨rfl, rfl, rfl, fittedRows,
        .inr ⟨column, isKey.inside, isKey, rfl, keys_in_eq column rows⟩,
        Text.distinct_nodup _, fun key => key_in_normal, rebuilt⟩

/-- Rows that are too long and too short, a blank key, and one key in two spellings. -/
example : ofRows "t" [] ["Name", " KEY"]
    [["Ann", " Area ", "x"], ["Bob"], [], ["Cay", "\t"], ["Dan", "AREA"]] (some "key") (some 7) =
      { id := "t", header := ["Name", " KEY"]
        rows := [["Ann", " Area "], ["Bob", []], [[], []], ["Cay", "\t"], ["Dan", "AREA"]]
        keyColumn := 1, knownKeys := ["area"] } := by
  decide +kernel

end RichText.Dataset
