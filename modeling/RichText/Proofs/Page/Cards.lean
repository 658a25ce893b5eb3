import RichText.Proofs.Dataset.Selection
import RichText.Proofs.Page.Returns

/-!
Cards against tables. The rows that cards are made of are found apart from those of a table; both come to
the same rows, for every dataset, hint and `filters` attribute. Where no row is kept, the cards are a
sentence that says so, unless the columns of the entry cannot be read.
-/

namespace RichText

namespace Page

/-- The marker with its `filters` attribute, if that is not blank, as its key hint. -/
def withFilters (marker : Marker) : Marker :=
  let filters := Text.trim (marker.attributeOf "filters")
  if filters.isEmpty then marker else { marker with key := some filters }

theorem with_filters_hint (marker : Marker) : (withFilters marker).keyHint? = filterHint marker := by
  unfold withFilters filterHint
  simp only
  split
  · rfl
  · rename_i present
    exact Option.filter_eq_some_iff.mpr ⟨rfl, by simpa using present⟩

theorem card_rows_selected (dataset : Dataset) (hint : Option Text) :
    (cardRows dataset hint).value = (dataset.selectRows hint).value.2 := by
  unfold cardRows Dataset.selectRows
  cases hint with
  | none => rfl
  | some hint =>
      simp only
      split
      · rw [Noted.bind_value, Noted.bind_value]
        split
        · rfl
        · rfl
      · rfl

/-- What stands in the place of cards when there are no rows. -/
def noListings : Text :=
  Markup.element "p" [("class", "cards-placeholder")] "No listings found."

/-- One card for each row. -/
def cardsOf (config : Config) (dataset : Dataset) (rows : List (List Text))
    (selected : Option (List Text)) : Text :=
  if rows.isEmpty then noListings
  else
    Markup.element "div" [("class", "cards-grid")]
      (rows.map (card dataset (cardColumns config.cards dataset selected))).flatten

theorem cards_no_listings_iff (config : Config) (dataset : Dataset) (rows : List (List Text))
    (selected : Option (List Text)) : cardsOf config dataset rows selected = noListings ↔ rows = [] := by
  unfold cardsOf
  split
  · rename_i empty
    exact iff_of_true rfl (List.isEmpty_iff.mp empty)
  · rename_i present
    apply iff_of_false ?_ (mt List.isEmpty_iff.mpr present)
    -- One starts with the tag of a division, the other with that of a paragraph.
    intro same
    exact absurd (List.cons.inj (List.cons.inj same).2).1 (by decide)

theorem card_grid_outcome (config : Config) (dataset : Dataset) (marker : Marker)
    (entry : Option Entry) :
    (cardGrid config dataset marker entry).outcome =
      (selectedColumns entry).map
        (cardsOf config dataset (cardRows dataset (filterHint marker)).value) := by
  unfold cardGrid
  change (Traced.ofNoted _ >>= _).outcome = _
  rw [Traced.of_noted_bind]
  simp only
  rw [Traced.bind_outcome]
  change selectedColumns entry >>= _ = _
  cases selectedColumns entry with
  | error fault => rfl
  | ok selected =>
      have made (rows : List (List Text)) :
          Traced.outcome (if rows.isEmpty then pure noListings
            else pure (Markup.element "div" [("class", "cards-grid")]
              (rows.map (card dataset (cardColumns config.cards dataset selected))).flatten) : View) =
            .ok (cardsOf config dataset rows selected) := by
        unfold cardsOf
        cases rows with
        | nil => rfl
        | cons row rows => rfl
      exact made _

/-- Cards and tables filter alike: the cards are those of the rows that the table keeps, all or those with
the keys that it names, one card for each in their order. The view without listings appears exactly where
the table keeps no row and the columns can be read. -/
theorem cards_of_kept_rows (config : Config) (dataset : Dataset) (marker : Marker)
    (entry : Option Entry) (names : List Text) :
    let table := (dataset.select (withFilters marker).keyHint? names).value
    let kept := dataset.keptRows table.keys
    let cards := (cardGrid config dataset marker entry).outcome
    table.rows = kept.map (dataset.shownCells names) ∧
      cards = (selectedColumns entry).map (cardsOf config dataset kept) ∧
        (Returns cards ↔ ColumnsReadable entry) ∧
          (cards = .ok noListings ↔ ColumnsReadable entry ∧ table.rows = []) := by
  intro table kept cards
  have selected : (dataset.selectRows (withFilters marker).keyHint?).value.2 = kept :=
    dataset.select_rows_kept _
  have rows : table.rows = kept.map (dataset.shownCells names) := by
    rw [← selected]
    rfl
  have shown : cards = (selectedColumns entry).map (cardsOf config dataset kept) := by
    rw [← selected, with_filters_hint, ← card_rows_selected]
    exact card_grid_outcome config dataset marker entry
  refine ⟨rows, shown, card_grid_returns_iff config dataset marker entry, ?_⟩
  rw [shown, map_ok_iff, rows, List.map_eq_nil_iff, ← selected_columns_returns_iff]
  simp only [cards_no_listings_iff, exists_and_right]
  rfl

/-- Cards whose columns are selected by a number, of a dataset without rows. -/
theorem numbered_columns_hide_listings :
    let dataset : Dataset := { id := "c", header := [("name" : Text)] }
    let marker : Marker := { kind := .cards, id := "c" }
    let entry : Entry :=
      { id := "c", contentType := "dataVisualizationCards",
        fields := [("filters", .map [(.text "selectedColumns", .int 5)])] }
    (dataset.select (withFilters marker).keyHint? []).value.rows = [] ∧
      (cardGrid {} dataset marker (some entry)).outcome ≠ .ok noListings := by
  intro dataset marker entry
  refine ⟨rfl, ?_⟩
  intro shown
  obtain ⟨-, -, -, exactly⟩ := cards_of_kept_rows {} dataset marker (some entry) []
  have readable := (exactly.mp shown).1 _ rfl (by decide)
  exact absurd readable (by decide)

end Page

end RichText
