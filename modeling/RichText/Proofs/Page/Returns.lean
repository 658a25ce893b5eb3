import RichText.Page.Expand
import RichText.Proofs.Marker.Scan
import RichText.Proofs.Number.Numeral
import RichText.Proofs.Traced
import RichText.Proofs.Value.Shape

/-!
When the display stage has a result. A view whose data is missing is an error box or a placeholder, and
most data of the wrong shape is passed over. Three shapes stop the whole page: a column selection that is
a single value, a heading tag with an ornamental digit, and a cell that looks like a number but holds a
separator.
-/

namespace RichText

namespace Page

/-! ## Columns -/

/-- The column selection of an entry, where it has one, is no single value. -/
def ColumnsReadable (entry : Option Entry) : Prop :=
  ∀ filters, (filtersOf entry).opened = .map filters →
    (Value.field "selectedColumns" filters).isTruthy = true →
      (Value.field "selectedColumns" filters).opened.isSingle = false

theorem selected_columns_returns_iff (entry : Option Entry) :
    Returns (selectedColumns entry) ↔ ColumnsReadable entry := by
  unfold selectedColumns ColumnsReadable
  split
  · rename_i filters opened
    rw [opened]
    simp only [Value.map.injEq, forall_eq']
    generalize Value.field "selectedColumns" filters = selection
    split
    · rename_i present
      have single := Value.series_none_iff selection
      cases series : selection.series? with
      | none =>
          have isSingle := single.mp series
          apply returns_error_iff
          intro readable
          exact absurd (readable present) (by simp [isSingle])
      | some items =>
          have notSingle := mt single.mpr (by simp [series])
          apply returns_ok_iff
          intro _
          exact Bool.eq_false_iff.mpr notSingle
    · rename_i absent
      apply returns_ok_iff
      intro present
      exact absurd present absent
  · rename_i notMap
    apply returns_ok_iff
    intro filters opened
    exact absurd opened (notMap filters)

/-! ## Tables of contents -/

/-- A tag names a level by a decimal digit or no level at all. -/
def LevelReadable (tag : Value) : Prop :=
  ∀ digit, Text.lower (Text.trim tag.toText) = ['h', digit] →
    Text.isDigit digit = true → Text.isDecimal digit = true

theorem level_of_returns_iff (tag : Value) : Returns (levelOf tag) ↔ LevelReadable tag := by
  unfold levelOf LevelReadable
  split
  · rename_i digit name
    rw [name]
    simp only [List.cons.injEq, true_and, and_true, forall_eq', Text.isDecimal]
    split
    · rename_i isDigit
      cases value : Text.decimalValue digit with
      | none =>
          apply returns_error_iff
          intro readable
          exact absurd (readable isDigit) (by simp)
      | some level =>
          apply returns_ok_iff
          intro _
          rfl
    · rename_i noDigit
      apply returns_ok_iff
      intro isDigit
      exact absurd isDigit noDigit
  · rename_i otherName
    apply returns_ok_iff
    intro digit name
    exact absurd name (otherName digit)

/-- An entry lists fixed items, or every heading tag of it can be read. -/
def ContentsReadable (entry : Entry) : Prop :=
  (∃ items, (entry.field "items").opened = .list items) ∨
    ∀ tag ∈ headerTags entry, LevelReadable tag

theorem contents_items_returns_iff (entry : Entry) (headings : List Heading) :
    Returns (contentsItems entry headings) ↔ ContentsReadable entry := by
  unfold contentsItems ContentsReadable
  split
  · rename_i items opened
    apply returns_ok_iff
    exact .inl ⟨items, opened⟩
  · rename_i notList
    unfold headingItems
    rw [returns_map_iff, returns_each_iff]
    simp only [level_of_returns_iff]
    constructor
    · exact .inr
    · rintro (⟨items, opened⟩ | readable)
      · exact absurd opened (notList items)
      · exact readable

theorem contents_view_returns_iff (store : Store) (marker : Marker) (headings : List Heading) :
    Returns (contentsView store marker headings).outcome ↔
      ∀ entry, store.entry? marker.id = some entry → ContentsReadable entry := by
  unfold contentsView
  split
  · rename_i missing
    rw [missing]
    apply returns_ok_iff
    intro found
    exact nofun
  · rename_i entry found
    rw [found]
    simp only [Option.some.injEq, forall_eq']
    rw [Traced.bind_outcome, returns_bind_iff_first]
    · exact contents_items_returns_iff entry headings
    · intro items
      split
      · exact returns_ok _
      · exact returns_ok _

/-! ## Charts -/

/-- A cell does not look like a number or holds no separator. -/
def AmountReadable (cell : Text) : Prop :=
  (Binary64.readNumeral? (Text.trim cell)).isSome = true →
    ∀ char ∈ cell, Binary64.isSeparator char = false

theorem shown_returns_iff (cell labelPrefix : Text) :
    Returns (Amount.shown cell labelPrefix) ↔ labelPrefix = [] ∨ AmountReadable cell := by
  unfold Amount.shown AmountReadable
  split
  · rename_i empty
    apply returns_ok_iff
    exact .inl (List.isEmpty_iff.mp empty)
  · rename_i present
    rw [or_iff_right (mt List.isEmpty_iff.mpr present)]
    split
    · rename_i noNumeral
      rw [noNumeral]
      apply returns_ok_iff
      exact nofun
    · rename_i numeral unreadable
      have looks : (Binary64.readNumeral? (Text.trim cell)).isSome = true := by rw [numeral]; rfl
      obtain ⟨char, member, separator⟩ := (Binary64.read_none_iff looks).mp unreadable
      apply returns_error_iff
      intro readable
      exact absurd (readable looks char member) (by simp [separator])
    · rename_i numeral readable
      have looks : (Binary64.readNumeral? (Text.trim cell)).isSome = true := by rw [numeral]; rfl
      apply returns_ok_iff
      intro _ char member
      apply Bool.eq_false_iff.mpr
      intro separator
      have unreadable := (Binary64.read_none_iff looks).mpr ⟨char, member, separator⟩
      rw [readable] at unreadable
      exact absurd unreadable (by simp)

/-- The text that a chart puts before amounts. -/
def chartPrefix (config : Config) (entry : Option Entry) : Text :=
  firstText [entryText entry "labelPrefix", config.charts.labelPrefix]

/-- A chart has no prefix, or every cell after the first of a row can be read. -/
def ChartReadable (labelPrefix : Text) (dataset : Dataset) : Prop :=
  labelPrefix = [] ∨ ∀ row ∈ dataset.rows, ∀ cell ∈ row.tail, AmountReadable cell

theorem chart_row_returns_iff (labelPrefix : Text) (row : List Text) :
    Returns (chartRow labelPrefix row) ↔
      ∀ cell ∈ row.tail, labelPrefix = [] ∨ AmountReadable cell := by
  cases row with
  | nil =>
      apply returns_ok_iff
      intro cell member
      exact absurd member List.not_mem_nil
  | cons label cells =>
      change Returns (cells.mapM (fun cell => Amount.shown cell labelPrefix) >>= _) ↔ _
      rw [returns_map_iff, returns_each_iff]
      simp only [shown_returns_iff, List.tail_cons]

theorem chart_view_returns_iff (config : Config) (store : Store) (marker : Marker) :
    Returns (chartView config store marker).outcome ↔
      ∀ dataset, store.dataset? marker.id = some dataset →
        ChartReadable (chartPrefix config (store.entry? marker.id)) dataset := by
  unfold chartView
  simp only
  split
  · rename_i missing
    rw [missing]
    apply returns_ok_iff
    intro found
    exact nofun
  · rename_i dataset found
    rw [found]
    simp only [Option.some.injEq, forall_eq']
    rw [returns_traced_map_iff]
    change Returns (dataset.rows.mapM (chartRow (chartPrefix config (store.entry? marker.id)))) ↔ _
    rw [returns_each_iff]
    simp only [chart_row_returns_iff, ChartReadable, forall_or_left]

/-! ## Cards and tables -/

theorem card_grid_returns_iff (config : Config) (dataset : Dataset) (marker : Marker)
    (entry : Option Entry) :
    Returns (cardGrid config dataset marker entry).outcome ↔ ColumnsReadable entry := by
  unfold cardGrid
  change Returns (Traced.ofNoted _ >>= _).outcome ↔ _
  rw [Traced.of_noted_bind, ← selected_columns_returns_iff]
  simp only
  rw [Traced.bind_outcome, returns_bind_iff_first]
  · rfl
  · intro selected
    split
    · exact returns_ok _
    · exact returns_ok _

theorem cards_view_returns_iff (config : Config) (store : Store) (marker : Marker) :
    Returns (cardsView config store marker).outcome ↔
      (store.dataset? marker.id ≠ none → ColumnsReadable (store.entry? marker.id)) := by
  unfold cardsView
  simp only
  split
  · rename_i missing
    rw [missing]
    apply returns_ok_iff
    intro present
    exact absurd rfl present
  · rename_i dataset found
    have present : some dataset ≠ none := Option.some_ne_none dataset
    rw [found, returns_traced_map_iff, card_grid_returns_iff, forall_prop_of_true present]

theorem table_view_returns_iff (config : Config) (store : Store) (marker : Marker)
    (headings : List Heading) :
    Returns (tableMarkerView config store marker headings).outcome ↔
      (store.dataset? marker.id ≠ none →
        if isContents config (store.entry? marker.id) then
          ∀ entry, store.entry? marker.id = some entry → ContentsReadable entry
        else ColumnsReadable (store.entry? marker.id)) := by
  unfold tableMarkerView
  split
  · rename_i missing
    rw [missing]
    apply returns_ok_iff
    intro present
    exact absurd rfl present
  · rename_i dataset found
    have present : some dataset ≠ none := Option.some_ne_none dataset
    rw [found, forall_prop_of_true present]
    simp only
    split
    · exact contents_view_returns_iff store marker headings
    · rw [← selected_columns_returns_iff, Traced.bind_outcome, returns_bind_iff_first]
      · rfl
      · intro selected
        exact returns_ok _

/-! ## Pages -/

/-- The data of a marker has none of the shapes that stop the page. -/
def Showable (config : Config) (store : Store) (marker : Marker) : Prop :=
  let entry := store.entry? marker.id
  let contents := ∀ found, entry = some found → ContentsReadable found
  match marker.kind with
  | .table =>
      store.dataset? marker.id ≠ none →
        if isContents config entry then contents else ColumnsReadable entry
  | .contents => contents
  | .chart =>
      ∀ dataset, store.dataset? marker.id = some dataset →
        ChartReadable (chartPrefix config entry) dataset
  | .cards => store.dataset? marker.id ≠ none → ColumnsReadable entry
  | .form => True

theorem view_returns_iff (config : Config) (store : Store) (headings : List Heading)
    (marker : Marker) :
    Returns (view config store headings marker).outcome ↔ Showable config store marker := by
  unfold view Showable
  rw [Traced.note_bind]
  simp only
  cases marker.kind with
  | table => exact table_view_returns_iff config store marker headings
  | contents => exact contents_view_returns_iff store marker headings
  | chart => exact chart_view_returns_iff config store marker
  | cards => exact cards_view_returns_iff config store marker
  | form => exact returns_ok_iff _ trivial

/-! ## Missing data -/

/-- The entity that the view of a marker is made of is not in the store. -/
def Missing (store : Store) (marker : Marker) : Prop :=
  match marker.kind with
  | .table | .chart | .cards => store.dataset? marker.id = none
  | .contents => store.entry? marker.id = none
  | .form => False

/-- A view without data: an error box, or the frame of a view around a placeholder. -/
inductive Fallback (marker : Marker) : Text → Prop
  | error (message : Text) : Fallback marker (errorBox message)
  | frame (name title placeholder : Text) :
      Fallback marker (titledView name marker title
        (Markup.element "p" [("class", name ++ "-placeholder")] placeholder))

theorem missing_view (config : Config) (store : Store) (headings : List Heading) (marker : Marker)
    (missing : Missing store marker) :
    ∃ page, (view config store headings marker).outcome = .ok page ∧ Fallback marker page := by
  unfold view
  rw [Traced.note_bind]
  unfold Missing at missing
  simp only
  cases kind : marker.kind with
  | table =>
      rw [kind] at missing
      unfold tableMarkerView
      rw [missing]
      exact ⟨_, rfl, .error _⟩
  | contents =>
      rw [kind] at missing
      unfold contentsView
      rw [missing]
      exact ⟨_, rfl, .error _⟩
  | chart =>
      rw [kind] at missing
      unfold chartView
      rw [missing]
      exact ⟨_, rfl, .frame "chart" _ _⟩
  | cards =>
      rw [kind] at missing
      unfold cardsView
      rw [missing]
      exact ⟨_, rfl, .frame "cards" _ _⟩
  | form =>
      rw [kind] at missing
      exact missing.elim

/-! ## Whole fragments -/

theorem readable_returns_iff (config : Config) (store : Store) {fragment : Text}
    {headings : List Heading} (readable : Readable fragment headings) :
    Returns (expand config store fragment).outcome ↔
      ∀ marker ∈ Marker.standing fragment, Showable config store marker := by
  rw [expand_outcome config store readable, Marker.standing_eq, Marker.filled_returns_iff]
  simp only [view_returns_iff]

/-- A fragment is expanded exactly if its markers and headings can be read and every marker in it can be
shown. Each marker is then replaced by its own view, which is an error box or a placeholder where the data
is missing, and everything else stays. -/
theorem expand_returns_iff (config : Config) (store : Store) (fragment : Text) :
    ((∃ page, (expand config store fragment).outcome = .ok page) ↔
        (∃ headings, Readable fragment headings) ∧
          ∀ marker ∈ Marker.standing fragment, Showable config store marker) ∧
      ∀ page, (expand config store fragment).outcome = .ok page →
        ∃ (headings : List Heading) (views : Marker → Text),
          Heading.scan fragment = .ok headings ∧
          page = (Marker.slots fragment).flatMap (Marker.Slot.shown views) ∧
          ∀ marker ∈ Marker.standing fragment,
            (view config store headings marker).outcome = .ok (views marker) ∧
            (Missing store marker → Fallback marker (views marker)) := by
  constructor
  · constructor
    · intro returns
      obtain ⟨headings, readable⟩ := readable_of_expanded config store returns
      exact ⟨⟨headings, readable⟩, (readable_returns_iff config store readable).mp returns⟩
    · rintro ⟨⟨headings, readable⟩, showable⟩
      exact (readable_returns_iff config store readable).mpr showable
  · intro page outcome
    obtain ⟨headings, readable⟩ := readable_of_expanded config store ⟨page, outcome⟩
    have showable := (readable_returns_iff config store readable).mp ⟨page, outcome⟩
    have views (marker : Marker) : ∃ text, marker ∈ Marker.standing fragment →
        (view config store headings marker).outcome = .ok text := by
      by_cases member : marker ∈ Marker.standing fragment
      · obtain ⟨text, viewed⟩ := (view_returns_iff config store headings marker).mpr
          (showable marker member)
        exact ⟨text, fun _ => viewed⟩
      · exact ⟨[], fun standing => absurd standing member⟩
    obtain ⟨views, viewed⟩ := Classical.skolem.mp views
    refine ⟨headings, views, readable.headings, ?_, ?_⟩
    · rw [Marker.standing_eq] at viewed
      rw [expand_outcome config store readable, Marker.filled_of_views _ views viewed] at outcome
      exact (Except.ok.inj outcome).symm
    · intro marker member
      refine ⟨viewed marker member, ?_⟩
      intro missing
      obtain ⟨text, fallback, isFallback⟩ := missing_view config store headings marker missing
      rw [viewed marker member] at fallback
      obtain rfl := Except.ok.inj fallback
      exact isFallback

/-- Cards whose columns are selected by a number. -/
def numberedColumns : Store where
  entries := [
    { id := "c", contentType := "dataVisualizationCards",
      fields := [("filters", .map [(.text "selectedColumns", .int 5)])] }]
  datasets := [{ id := "c", header := [("name" : Text)], rows := [[("Ann" : Text)]] }]

theorem numbered_columns_stop_page :
    ¬∃ page, (expand {} numberedColumns "a [richdoc_cards id=\"c\"] b").outcome = .ok page := by
  rw [(expand_returns_iff {} numberedColumns "a [richdoc_cards id=\"c\"] b").1]
  have standing : Marker.standing "a [richdoc_cards id=\"c\"] b" =
      [{ kind := .cards, id := "c" }] := by decide +kernel
  rw [standing]
  rintro ⟨-, showable⟩
  have readable := showable _ List.mem_cons_self (by decide) _ rfl (by decide)
  exact absurd readable (by decide)

end Page

end RichText
