import RichText.Proofs.Dataset.Columns
import RichText.Proofs.Page.Cards

/-!
Which columns cards show. The key column is never shown, and a hidden column only if the entry selects
columns: for its name, or, whatever the entry names, because none of the names fits a column to show. The
second is no part of what hiding promises; without a selection a hidden column stays hidden.
-/

namespace RichText.Page

variable {settings : CardSettings} {dataset : Dataset} {selected : Option (List Text)} {column : Nat}

/-- The header of a column is one of the hidden ones, in normal form. -/
def Hidden (settings : CardSettings) (dataset : Dataset) (column : Nat) : Prop :=
  KeyMatch.normal (Dataset.cellAt dataset.header column) ∈
    settings.hiddenColumns.map KeyMatch.normal

/-- Some card has a field for a column. -/
def OnCards (config : Config) (dataset : Dataset) (rows : List (List Text))
    (selected : Option (List Text)) (column : Nat) : Prop :=
  column ∈ cardColumns config.cards dataset selected ∧
    ∃ row ∈ rows, ∃ field, cardField? dataset row column = some field

theorem card_field_present_iff (dataset : Dataset) (row : List Text) (column : Nat) :
    (∃ field, cardField? dataset row column = some field) ↔ Dataset.cellAt row column ≠ [] := by
  by_cases blank : Dataset.cellAt row column = []
  · have absent : cardField? dataset row column = none := if_pos (List.isEmpty_iff.mpr blank)
    simp only [absent, blank, ne_eq, not_true_eq_false, reduceCtorEq, exists_false]
  · exact iff_of_true ⟨_, if_neg (mt List.isEmpty_iff.mp blank)⟩ blank

theorem mem_unselected_columns_iff : column ∈ cardColumns settings dataset none ↔
    column < dataset.header.length ∧ (column : Int) ≠ dataset.keyColumn ∧
      ¬Hidden settings dataset column := by
  simp only [cardColumns, Hidden, List.mem_filter, List.mem_range, Bool.and_eq_true,
    Bool.not_eq_true', List.contains_eq_mem, decide_eq_true_eq, decide_eq_false_iff_not, and_comm]

theorem card_column_inside (shown : column ∈ cardColumns settings dataset selected) :
    column < dataset.header.length ∧ (column : Int) ≠ dataset.keyColumn := by
  cases selected with
  | none =>
      obtain ⟨inside, other, -⟩ := mem_unselected_columns_iff.mp shown
      exact ⟨inside, other⟩
  | some names => exact Dataset.visible_column_inside shown

/-- What makes a hidden column one of the columns of cards. -/
theorem hidden_mem_card_columns_iff (hidden : Hidden settings dataset column) :
    column ∈ cardColumns settings dataset selected ↔
      column < dataset.header.length ∧ (column : Int) ≠ dataset.keyColumn ∧
        ∃ names, selected = some names ∧
          ((∃ name ∈ names, Dataset.FirstNamed dataset.header name column) ∨
            Dataset.Unmatched dataset.header dataset.keyColumn names) := by
  cases selected with
  | none => simp [mem_unselected_columns_iff, hidden]
  | some names =>
      simp only [Option.some.injEq, exists_eq_left']
      exact Dataset.mem_visible_columns_iff

theorem cards_view_outcome (config : Config) (store : Store) (marker : Marker)
    (found : store.dataset? marker.id = some dataset) :
    (cardsView config store marker).outcome =
      (selectedColumns (store.entry? marker.id)).map fun selected =>
        titledView "cards" marker
          (firstText [marker.attributeOf "title", entryText (store.entry? marker.id) "title"])
          (cardsOf config dataset (cardRows dataset (filterHint marker)).value selected) := by
  unfold cardsView
  simp only [found]
  rw [Traced.bind_outcome, card_grid_outcome]
  cases selectedColumns (store.entry? marker.id) with
  | error fault => rfl
  | ok selected => rfl

/-- Cards show no key column, and a hidden column with a value exactly if the entry selects columns and
either one of its names means the hidden one, or none of them means any column to show. -/
theorem hidden_column_shown_iff (config : Config) (store : Store) (marker : Marker)
    (dataset : Dataset) (found : store.dataset? marker.id = some dataset) :
    let entry := store.entry? marker.id
    let title := firstText [marker.attributeOf "title", entryText entry "title"]
    let rows := (cardRows dataset (filterHint marker)).value
    (cardsView config store marker).outcome = ((selectedColumns entry).map fun selected =>
        titledView "cards" marker title (cardsOf config dataset rows selected)) ∧
      ∀ selected, selectedColumns entry = .ok selected → ∀ column,
        (OnCards config dataset rows selected column →
          column < dataset.header.length ∧ (column : Int) ≠ dataset.keyColumn) ∧
        (Hidden config.cards dataset column →
          (OnCards config dataset rows selected column ↔
            (column < dataset.header.length ∧ (column : Int) ≠ dataset.keyColumn ∧
              ∃ names, selected = some names ∧
                ((∃ name ∈ names, Dataset.FirstNamed dataset.header name column) ∨
                  Dataset.Unmatched dataset.header dataset.keyColumn names)) ∧
            ∃ row ∈ rows, Dataset.cellAt row column ≠ [])) := by
  intro entry title rows
  refine ⟨cards_view_outcome config store marker found, ?_⟩
  intro selected _ column
  constructor
  · intro shown
    exact card_column_inside shown.1
  · intro hidden
    simp only [OnCards, card_field_present_iff, hidden_mem_card_columns_iff hidden]

/-- Cards whose entry selects a column that the table does not have. -/
theorem unknown_column_shows_hidden :
    let dataset : Dataset := { id := "c", header := ["Name", "Slug"], rows := [["Ann", "ann"]] }
    let filters : Value := .map [(.text "selectedColumns", .list [.text "Email"])]
    let entry : Entry :=
      { id := "c", contentType := "dataVisualizationCards", fields := [("filters", filters)] }
    let store : Store := { entries := [entry], datasets := [dataset] }
    let marker : Marker := { kind := .cards, id := "c" }
    let email : Text := "Email"
    store.dataset? marker.id = some dataset ∧
      selectedColumns (store.entry? marker.id) = .ok (some [email]) ∧
      Hidden ({} : Config).cards dataset 1 ∧
      KeyMatch.normal email ≠ KeyMatch.normal (Dataset.cellAt dataset.header 1) ∧
      OnCards {} dataset dataset.rows (some [email]) 1 := by
  intro dataset filters entry store marker email
  have found : store.dataset? marker.id = some dataset := by decide +kernel
  have readable : selectedColumns (store.entry? marker.id) = .ok (some [email]) := by
    rfl
  have hidden : Hidden ({} : Config).cards dataset 1 := by unfold Hidden; decide +kernel
  have unmatched : Dataset.Unmatched dataset.header dataset.keyColumn [email] := by
    rw [Dataset.unmatched_iff]
    decide +kernel
  -- Its name is not the hidden one: the column comes back because no name fits.
  obtain ⟨-, columns⟩ := hidden_column_shown_iff {} store marker dataset found
  obtain ⟨-, exactly⟩ := columns (some [email]) readable 1
  refine ⟨found, readable, hidden, by decide +kernel, (exactly hidden).mpr ?_⟩
  refine ⟨⟨by decide, by decide, [email], rfl, .inr unmatched⟩, ["Ann", "ann"], ?_, by decide⟩
  exact List.mem_singleton_self _

end RichText.Page
