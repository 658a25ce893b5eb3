import RichText.Proofs.Checked
import RichText.Proofs.Traced
import RichText.Proofs.Value.Shape
import RichText.Source

/-!
What loading a snapshot reports. Records of any wrong shape are reported with the way that leads to them.
Three things are not: a section that is not named by text, a header or a row that is a single value where
a series of cells should be, and a table whose file is a folder. The last is met only by a snapshot that
is well formed, and only after all tables before it were loaded.
-/

namespace RichText

namespace Table

/-- Fields of which the header, the rows or one of the rows is a single value. Only a whole header and
all of the rows may be null. -/
inductive Unlisted (fields : List (Value × Value)) : Prop
  | header {header : Value} (found : Value.lookup "header" fields = some header)
      (present : header ≠ .null) (single : header.opened.isSingle = true)
  | rows {rows : Value} (found : Value.lookup "rows" fields = some rows)
      (present : rows ≠ .null) (single : rows.opened.isSingle = true)
  | row {rows row : Value} {items : List Value} (found : Value.lookup "rows" fields = some rows)
      (listed : rows.series? = some items) (member : row ∈ items) (single : row.opened.isSingle = true)

section Series

open Checked

theorem series_unreadable_iff (value : Value) :
    series value = .unreadable ↔ value ≠ .null ∧ value.opened.isSingle = true := by
  rw [← Value.series_none_iff]
  by_cases null : value = .null
  · subst null
    simp [series]
  · rw [series]
    · cases value.series? <;> simp [null]
    · exact null

theorem series_valid_iff (value : Value) (items : List Value) :
    series value = .valid items ↔ value = .null ∧ items = [] ∨ value.series? = some items := by
  by_cases null : value = .null
  · subst null
    have single : Value.null.series? = none := rfl
    simp [series, single, eq_comm]
  · rw [series]
    · cases value.series? <;> simp [null]
    · exact null

theorem header_texts_unreadable_iff (value : Value) :
    headerTexts value = .unreadable ↔ value ≠ .null ∧ value.opened.isSingle = true := by
  rw [headerTexts, map_unreadable_iff, series_unreadable_iff]

theorem row_texts_unreadable_iff (row : Value) :
    rowTexts row = .unreadable ↔ row.opened.isSingle = true := by
  by_cases null : row = .null
  · subst null
    exact iff_of_true rfl rfl
  · rw [rowTexts]
    · rw [map_unreadable_iff, series_unreadable_iff]
      exact and_iff_right null
    · exact null

theorem rows_texts_unreadable_iff (value : Value) :
    rowsTexts value = .unreadable ↔ (value ≠ .null ∧ value.opened.isSingle = true) ∨
      ∃ items row, value.series? = some items ∧ row ∈ items ∧ row.opened.isSingle = true := by
  have row_among (items : List Value) :
      .unreadable ∈ items.map rowTexts ↔ ∃ row ∈ items, row.opened.isSingle = true := by
    simp [row_texts_unreadable_iff]
  rw [rowsTexts, and_then_unreadable_iff, series_unreadable_iff]
  simp only [series_valid_iff, all_unreadable_iff, row_among]
  apply or_congr_right
  constructor
  -- Null stands for no rows, so a row comes from a series that is there.
  · rintro ⟨items, ⟨-, rfl⟩ | listed, row, member, single⟩
    · exact absurd member List.not_mem_nil
    · exact ⟨items, row, listed, member, single⟩
  · rintro ⟨items, row, listed, member, single⟩
    exact ⟨items, .inr listed, row, member, single⟩

theorem check_place_readable (table : Table) : checkPlace table ≠ .unreadable := by
  unfold checkPlace
  split
  · exact nofun
  · split
    · exact nofun
    · exact nofun

theorem unlisted_iff (fields : List (Value × Value)) :
    Unlisted fields ↔
      (∃ header, Value.lookup "header" fields = some header ∧ headerTexts header = .unreadable) ∨
        ∃ rows, Value.lookup "rows" fields = some rows ∧ rowsTexts rows = .unreadable := by
  simp only [header_texts_unreadable_iff, rows_texts_unreadable_iff]
  constructor
  · intro unlisted
    cases unlisted with
    | header found present single => exact .inl ⟨_, found, present, single⟩
    | rows found present single => exact .inr ⟨_, found, .inl ⟨present, single⟩⟩
    | row found listed member single => exact .inr ⟨_, found, .inr ⟨_, _, listed, member, single⟩⟩
  · rintro (⟨header, found, present, single⟩ | ⟨rows, found, whole | part⟩)
    · exact .header found present single
    · exact .rows found whole.1 whole.2
    · obtain ⟨items, row, listed, member, single⟩ := part
      exact .row found listed member single

theorem check_unreadable_iff (value : Value) :
    check value = .unreadable ↔ ∃ fields, value.opened = .map fields ∧ Unlisted fields := by
  simp only [check, unlisted_iff, and_then_unreadable_iff, check_place_readable, and_false,
    exists_false, or_false, fields_unreadable_iff, seq_unreadable_iff, change_unreadable_iff,
    optional_unreadable_iff, optional_readable _ _ _ text_readable,
    optional_readable _ _ _ text_or_null_readable,
    optional_either_readable _ _ _ _ text_or_null_readable, false_or]

end Series

end Table

namespace Snapshot

open Checked

theorem entry_readable (locale : Text) (value : Value) : Entry.check locale value ≠ .unreadable := by
  have fields_readable (value : Value) : Entry.checkFields value ≠ .unreadable := by
    cases value with
    | null => exact nofun
    | _ => simp [Entry.checkFields, mapping_unreadable_iff]
  simp [Entry.check, fields_unreadable_iff, seq_unreadable_iff, change_unreadable_iff,
    required_either_readable _ _ _ text_readable, optional_readable _ _ _ fields_readable]

theorem asset_readable (locale : Text) (value : Value) : Asset.check locale value ≠ .unreadable := by
  have loose_readable (value : Value) : Asset.looseText value ≠ .unreadable := by
    cases value <;> exact nofun
  simp [Asset.check, fields_unreadable_iff, seq_unreadable_iff, change_unreadable_iff,
    required_readable _ _ text_readable, optional_readable _ _ _ loose_readable,
    optional_either_readable _ _ _ _ loose_readable]

variable {α : Type}

theorem section_unreadable_iff (check : Value → Checked α) (value : Value) :
    Snapshot.section? check value = .unreadable ↔ ∃ records id record,
      value.opened = .map records ∧ (id, record) ∈ records ∧ check record = .unreadable := by
  by_cases null : value = .null
  · subst null
    simp [section?, Value.opened]
  · rw [section?]
    · exact mapping_unreadable_iff check value
    · exact null

theorem section_readable {check : Value → Checked α} (readable : ∀ value, check value ≠ .unreadable)
    (value : Value) : section? check value ≠ .unreadable := by
  rw [Ne, section_unreadable_iff]
  rintro ⟨records, id, record, -, -, fails⟩
  exact readable record fails

theorem check_unreadable_iff (locale : Text) (sections : List (Value × Value)) :
    check locale sections = .unreadable ↔ ∃ tables, Value.lookup "datasets" sections = some tables ∧
      ∃ records id record, tables.opened = .map records ∧ (id, record) ∈ records ∧
        ∃ fields, record.opened = .map fields ∧ Table.Unlisted fields := by
  simp only [check, seq_unreadable_iff, change_unreadable_iff, optional_unreadable_iff,
    optional_readable _ _ _ (section_readable (entry_readable locale)),
    optional_readable _ _ _ (section_readable (asset_readable locale)), false_or,
    section_unreadable_iff, Table.check_unreadable_iff]

end Snapshot

namespace Source

/-- An outcome that is a result or a fault of content, as every command reports it. -/
def Reported {α : Type} (outcome : Except Fault α) : Prop :=
  Returns outcome ∨ Fails (fun fault => fault.isOfContent = true) outcome

instance {α : Type} : (outcome : Except Fault α) → Decidable (Reported outcome)
  | .ok value => isTrue (.inl (returns_ok value))
  | .error fault =>
      if content : fault.isOfContent = true then isTrue (.inr ⟨fault, rfl, content⟩)
      else isFalse fun
        | .inl returns => not_returns_error fault returns
        | .inr fails => content ((fails_error_iff fault).mp fails)

/-- A fault of something else than content. -/
def Fault.Escapes (fault : Fault) : Prop := fault.isOfContent = false

theorem reported_iff {α : Type} (outcome : Except Fault α) :
    Reported outcome ↔ ¬Fails Fault.Escapes outcome := by
  unfold Reported
  cases outcome with
  | ok value => exact iff_of_true (.inl (returns_ok value)) (not_fails_ok value)
  | error fault => simp [fails_error_iff, not_returns_error, Fault.Escapes]

/-! ## The snapshot in a value -/

/-- A value in which something is not looked through: a section under no name, or the cells of a table
record. -/
inductive Unreadable (value : Value) : Prop
  | unnamed {sections : List (Value × Value)} {key content : Value}
      (opened : value.opened = .map sections) (member : (key, content) ∈ sections)
      (other : ∀ name, key ≠ .text name)
  | table {sections records fields : List (Value × Value)} {tables id record : Value}
      (opened : value.opened = .map sections) (found : Value.lookup "datasets" sections = some tables)
      (listed : tables.opened = .map records) (member : (id, record) ∈ records)
      (shape : record.opened = .map fields) (unlisted : Table.Unlisted fields)

theorem unnamed_iff (sections : List (Value × Value)) :
    (sections.any fun (key, _) => !(key matches .text _)) = true ↔
      ∃ key content, (key, content) ∈ sections ∧ ∀ name, key ≠ .text name := by
  simp only [List.any_eq_true, Prod.exists]
  apply exists_congr
  intro key
  cases key <;> simp

theorem opened_of_unreadable {value : Value} (unreadable : Unreadable value) :
    ∃ sections, value.opened = .map sections := by
  cases unreadable with
  | unnamed opened => exact ⟨_, opened⟩
  | table opened => exact ⟨_, opened⟩

theorem unreadable_map_iff (locale : Text) {value : Value} {sections : List (Value × Value)}
    (opened : value.opened = .map sections) :
    Unreadable value ↔ (∃ key content, (key, content) ∈ sections ∧ ∀ name, key ≠ .text name) ∨
      Snapshot.check locale sections = .unreadable := by
  rw [Snapshot.check_unreadable_iff]
  constructor
  · intro unreadable
    cases unreadable with
    | unnamed again member other =>
        obtain rfl := Value.map.inj (again.symm.trans opened)
        exact .inl ⟨_, _, member, other⟩
    | table again found listed member shape unlisted =>
        obtain rfl := Value.map.inj (again.symm.trans opened)
        exact .inr ⟨_, found, _, _, _, listed, member, _, shape, unlisted⟩
  · rintro (⟨key, content, member, other⟩ | ⟨tables, found, part⟩)
    · exact .unnamed opened member other
    · obtain ⟨records, id, record, listed, member, fields, shape, unlisted⟩ := part
      exact .table opened found listed member shape unlisted

theorem snapshot_of_escapes_iff (name locale : Text) (value : Value) :
    Fails Fault.Escapes (snapshotOf name locale value) ↔ Unreadable value := by
  unfold snapshotOf
  split
  · rename_i null
    apply iff_of_false (not_fails_ok _)
    intro unreadable
    obtain ⟨sections, opened⟩ := opened_of_unreadable unreadable
    exact absurd (null.symm.trans opened) nofun
  · rename_i sections opened
    rw [unreadable_map_iff locale opened]
    split
    · rename_i unnamed
      exact iff_of_true ((fails_error_iff _).mpr rfl) (.inl ((unnamed_iff sections).mp unnamed))
    · rename_i named
      rw [or_iff_right (mt (unnamed_iff sections).mpr named)]
      cases Snapshot.check locale sections with
      | valid snapshot => exact iff_of_false (not_fails_ok snapshot) nofun
      | invalid issues =>
          have content : (Fault.invalidSnapshot name issues).isOfContent = true := rfl
          simp [fails_error_iff, Fault.Escapes, content]
      | unreadable => exact iff_of_true ((fails_error_iff _).mpr rfl) rfl
  · rename_i notNull notMap
    rw [fails_error_iff]
    apply iff_of_false nofun
    intro unreadable
    obtain ⟨sections, opened⟩ := opened_of_unreadable unreadable
    exact notMap sections opened

/-! ## The files of tables -/

theorem bytes_at_escapes_iff (files : Files) (path : Path) {missing : Fault}
    (content : missing.isOfContent = true) :
    Fails Fault.Escapes (bytesAt files path missing) ↔ files.item? path = some .folder := by
  unfold bytesAt
  split
  · rename_i none
    simp [none, fails_error_iff, Fault.Escapes, content]
  · rename_i folder
    exact iff_of_true ((fails_error_iff _).mpr rfl) folder
  · rename_i bytes file
    simp [file, not_fails_ok]

theorem not_escapes_map_error {ε α : Type} (outcome : Except ε α) {rename : ε → Fault}
    (content : ∀ fault, (rename fault).isOfContent = true) :
    ¬Fails Fault.Escapes (outcome.mapError rename) := by
  cases outcome with
  | ok value => exact not_fails_ok value
  | error fault =>
      have renamed : (Except.error fault : Except ε α).mapError rename = .error (rename fault) := rfl
      rw [renamed, fails_error_iff, Fault.Escapes, content]
      exact nofun

theorem lines_at_escapes_iff (files : Files) (dataset : Text) (path : Path) :
    Fails Fault.Escapes (linesAt files dataset path) ↔ files.item? path = some .folder := by
  unfold linesAt
  rw [fails_bind_iff, bytes_at_escapes_iff files path rfl]
  apply or_iff_left
  rintro ⟨bytes, -, fails⟩
  rcases (fails_bind_iff _ _).mp fails with fails | ⟨text, -, fails⟩
  · exact not_escapes_map_error _ (fun _ => rfl) fails
  · exact not_escapes_map_error _ (fun _ => rfl) fails

theorem load_dataset_escapes_iff (files : Files) (id title : Text) (path : Path)
    (keyName : Option Text) :
    Fails Fault.Escapes (loadDataset files id title path keyName).outcome ↔
      files.item? path = some .folder := by
  rw [loadDataset, Traced.bind_outcome, fails_bind_iff]
  have lines := lines_at_escapes_iff files id path
  rw [← lines]
  apply or_iff_left
  rintro ⟨lines, -, fails⟩
  exact not_fails_ok (Dataset.ofLines id title lines keyName).value fails

theorem dataset_of_escapes_iff (files : Files) (config : Config) (folder : Path) (table : Table) :
    Fails Fault.Escapes (datasetOf files config folder table).outcome ↔
      ∃ place, tablePath? folder table = some place ∧ files.item? place = some .folder := by
  unfold datasetOf
  cases tablePath? folder table with
  | some place => simp [load_dataset_escapes_iff]
  | none => exact iff_of_false (not_fails_ok _) (by simp)

/-! ## Whole snapshots -/

/-- The value of a snapshot file that is not reported as a fault of content, though it has no store. -/
inductive Breaks (files : Files) (config : Config) (path : Path) (value : Value) : Prop
  | unreadable (unreadable : Unreadable value)
  /-- The file of a table is a folder, and all tables before it have a dataset. -/
  | folder {snapshot : Snapshot} {before after : List Table} {table : Table} {place : Path}
      (read : snapshotOf path.name config.locale value = .ok snapshot)
      (tables : snapshot.tables = before ++ table :: after)
      (loaded : ∀ earlier ∈ before, Returns (datasetOf files config path.parent earlier).outcome)
      (located : tablePath? path.parent table = some place)
      (isFolder : files.item? place = some .folder)

theorem store_of_escapes_iff (files : Files) (config : Config) (folder : Path) (snapshot : Snapshot) :
    Fails Fault.Escapes (storeOf files config folder snapshot).outcome ↔
      ∃ before table after, snapshot.tables = before ++ table :: after ∧
        (∀ earlier ∈ before, Returns (datasetOf files config folder earlier).outcome) ∧
          ∃ place, tablePath? folder table = some place ∧ files.item? place = some .folder := by
  rw [storeOf, Traced.bind_outcome, each_outcome]
  refine (fails_map_iff _ _).trans ?_
  simp only [fails_each_iff, dataset_of_escapes_iff]

theorem load_snapshot_escapes_iff {files : Files} {config : Config} {path : Path} {value : Value}
    (loads : valueAt files path (.fileMissing path.toText) (fun _ => .unparsable path.name) =
      .ok value) :
    Fails Fault.Escapes (loadSnapshot files config path).outcome ↔ Breaks files config path value := by
  have read : (Traced.ofExcept (snapshotAt files config.locale path)).outcome =
      snapshotOf path.name config.locale value := by
    rw [snapshotAt, loads]
    rfl
  have stored (snapshot : Snapshot) (notice : Notice) :
      Fails Fault.Escapes (storeOf files config path.parent snapshot >>= fun store =>
        Traced.note notice >>= fun _ => pure store).outcome ↔
        Fails Fault.Escapes (storeOf files config path.parent snapshot).outcome := by
    rw [Traced.bind_outcome]
    exact fails_map_iff _ _
  rw [loadSnapshot, Traced.bind_outcome, fails_bind_iff, read, snapshot_of_escapes_iff]
  simp only [stored, store_of_escapes_iff]
  constructor
  · rintro (unreadable | ⟨snapshot, read, stops⟩)
    · exact .unreadable unreadable
    · obtain ⟨before, table, after, tables, loaded, place, located, folder⟩ := stops
      exact .folder read tables loaded located folder
  · intro breaks
    cases breaks with
    | unreadable unreadable => exact .inl unreadable
    | folder read tables loaded located folder =>
        exact .inr ⟨_, read, _, _, _, tables, loaded, _, located, folder⟩

theorem snapshot_reported_iff (files : Files) (config : Config) (path : Path) (value : Value)
    (loads : valueAt files path (.fileMissing path.toText) (fun _ => .unparsable path.name) =
      .ok value) :
    Reported (loadSnapshot files config path).outcome ↔ ¬Breaks files config path value := by
  rw [reported_iff, load_snapshot_escapes_iff loads]

/-- A snapshot with a table whose rows are a number. -/
def numberedRows : Files :=
  ⟨[(⟨[], ["s.yaml"]⟩, .file (Text.toBytes "datasets: {t: {header: [a], rows: 5}}"))]⟩

theorem numbered_rows_break : ∃ value,
    valueAt numberedRows ⟨[], ["s.yaml"]⟩ (.fileMissing "s.yaml") (fun _ => .unparsable "s.yaml") =
        .ok value ∧
      Breaks numberedRows {} ⟨[], ["s.yaml"]⟩ value := by
  have returns : Returns (valueAt numberedRows ⟨[], ["s.yaml"]⟩ (.fileMissing "s.yaml")
      fun _ => .unparsable "s.yaml") := by decide +kernel
  have escapes : ¬Reported (loadSnapshot numberedRows {} ⟨[], ["s.yaml"]⟩).outcome := by
    decide +kernel
  obtain ⟨value, loads⟩ := returns
  -- The file and the fault are evaluated; what the value breaks follows from the theorem.
  refine ⟨value, loads, ?_⟩
  apply Classical.byContradiction
  intro holds
  exact escapes ((snapshot_reported_iff numberedRows {} ⟨[], ["s.yaml"]⟩ value loads).mpr holds)

end Source

end RichText
