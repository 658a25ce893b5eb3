import RichText.Proofs.Markup.Nested
import RichText.Proofs.Markup.Nondecimal
import RichText.Proofs.Page.Readable
import RichText.Proofs.Render.Forgery

/-!
What data can do to a view. Ids, attributes, titles, headers and cells of any text end up in views whose
elements are nested, with quoted attribute values and bare text between the tags, and in which no marker
with an id is found; so expanding a view once more leaves it as it is. Tables of contents, whose
placeholders are comments, are not covered.
-/

namespace RichText.Page

open Markup (Token Composed ComposedAll Built startsFirm)

/-! ## Parts of views -/

theorem class_names_firm {first : Char} {rest : Text} (others : List Text)
    (stays : Markup.goesOn first = false) :
    startsFirm (classNames ((first :: rest) :: others)) = true := by
  unfold classNames
  rw [List.filter_cons_of_pos (by rfl), Text.join_cons, List.cons_append, startsFirm, stays]
  rfl

theorem composed_error (message : Text) : Composed Token.Firm [] (errorBox message) :=
  Markup.composed_element (by decide) (Markup.attributed_firm (by decide))
    (Markup.composed_escape message)

theorem composed_data_cells {tag : Text} (valid : Markup.isNameText tag = true) (cells : List Text) :
    Composed Token.Firm [] (Markup.dataCells tag cells) := by
  apply Markup.composed_element (by decide) Markup.attributed_nil
  apply Markup.composed_each
  intro cell _
  exact Markup.composed_element valid Markup.attributed_nil (Markup.composed_escape cell)

theorem composed_data_table (header : List Text) (rows : List (List Text)) {cssClass : Text}
    (firm : startsFirm cssClass = true) :
    Composed Token.Firm [] (Markup.dataTable header rows cssClass) := by
  have body (rows : List (List Text)) :
      Composed Token.Firm [] (rows.map (Markup.dataCells "td")).flatten :=
    Markup.composed_each fun cells _ => composed_data_cells (by decide) cells
  have head : Composed Token.Firm [] (Markup.element "thead" [] (Markup.dataCells "th" header)) :=
    Markup.composed_element (by decide) Markup.attributed_nil (composed_data_cells (by decide) header)
  have tail : Composed Token.Firm [] (Markup.element "tbody" [] _) :=
    Markup.composed_element (by decide) Markup.attributed_nil
      (body (rows.filter fun row => !row.isEmpty))
  exact Markup.composed_element (by decide) (Markup.attributed_firm (by decide))
    (Markup.composed_element (by decide) (Markup.attributed_optional (by decide) firm)
      (Markup.composed_before head tail))

/-- A content under a title that may be missing. -/
theorem composed_titled {titles : List Text} {content : Text}
    (titled : ∀ text ∈ titles, Composed Token.Firm [] text)
    (inside : Composed Token.Firm [] content) :
    Composed Token.Firm [] (Text.join "\n" (titles ++ [content])) := by
  apply Markup.composed_join (by decide)
  apply Markup.composed_all_of_forall
  rw [List.forall_mem_append, List.forall_mem_singleton]
  exact ⟨titled, inside⟩

/-! ## Tables -/

theorem composed_table_view (settings : TableSettings) (dataset : Dataset) (hint : Option Text)
    (selected : Option (List Text)) :
    Composed Token.Firm [] (tableView settings dataset hint selected).value := by
  unfold tableView
  rw [Noted.bind_value]
  apply Markup.composed_element (by decide)
  · exact Markup.attributed_append (Markup.attributed_optional (by decide) (by rfl))
      (Markup.attributed_optional (by decide) (by rfl))
  · apply Markup.composed_lines
    apply composed_titled
    · split
      · rw [List.forall_mem_singleton]
        exact Markup.composed_element (by decide) Markup.attributed_nil (Markup.composed_escape _)
      · exact List.forall_mem_nil _
    · exact composed_data_table _ _ (by decide)

/-! ## Charts and cards -/

theorem composed_titled_view {name : Text} (marker : Marker) (title : Text) {content : Text}
    (firm : startsFirm (name ++ "-title") = true) (inside : Composed Token.Firm [] content) :
    Composed Token.Firm [] (titledView name marker title content) := by
  have heading : Composed Token.Firm []
      (Markup.element "h3" [("class", name ++ "-title")] (Text.escape title)) :=
    Markup.composed_element (by decide)
      (Markup.attributed_cons (by decide) firm Markup.attributed_nil) (Markup.composed_escape title)
  unfold titledView
  apply Markup.composed_element (by decide)
  · exact Markup.attributed_cons (by decide) (class_names_firm _ (by decide))
      (Markup.attributed_cons (by decide) (by rfl) Markup.attributed_nil)
  · apply Markup.composed_lines
    apply composed_titled ?_ inside
    split
    · exact List.forall_mem_nil _
    · rw [List.forall_mem_singleton]
      exact heading

theorem composed_chart_placeholder (kind : Text) : Composed Token.Firm []
    (Markup.element "p" [("class", "chart-placeholder")] ("[" ++ Text.escape kind ++ "]")) :=
  Markup.composed_element (by decide) (Markup.attributed_firm (by decide))
    (Markup.composed_before
      (Markup.composed_before (Markup.composed_plain (by decide)) (Markup.composed_escape kind))
      (Markup.composed_plain (by decide)))

theorem chart_gives (config : Config) (store : Store) (marker : Marker) :
    Gives (chartView config store marker) (Composed Token.Firm []) := by
  unfold chartView
  simp only
  split
  · exact gives_after fun _ =>
      gives_pure (composed_titled_view marker _ (by decide) (composed_chart_placeholder _))
  · exact gives_after fun rows =>
      gives_pure (composed_titled_view marker _ (by decide) (composed_data_table _ rows (by decide)))

theorem composed_card_field (dataset : Dataset) (row : List Text) (column : Nat) :
    ∀ text ∈ cardField? dataset row column, Composed Token.Firm [] text := by
  have span {name : Text} (firm : startsFirm name = true) {content : Text}
      (inside : Composed Token.Firm [] content) :
      Composed Token.Firm [] (Markup.element "span" [("class", name)] content) :=
    Markup.composed_element (by decide)
      (Markup.attributed_cons (by decide) firm Markup.attributed_nil) inside
  intro text member
  unfold cardField? at member
  simp only at member
  split at member
  · exact absurd member nofun
  · obtain rfl := Option.some.inj member
    apply Markup.composed_element (by decide) (Markup.attributed_firm (by decide))
    apply Markup.composed_before
    · split
      · exact Markup.composed_nil
      · exact Markup.composed_before
          (span (by decide) (Markup.composed_before
            (Markup.composed_escape _) (Markup.composed_plain (by decide))))
          (Markup.composed_plain (by decide))
    · exact span (by decide) (Markup.composed_escape _)

theorem composed_card (dataset : Dataset) (columns : List Nat) (row : List Text) :
    Composed Token.Firm [] (card dataset columns row) := by
  have each : ∀ text ∈ columns.filterMap (cardField? dataset row), Composed Token.Firm [] text := by
    intro text member
    obtain ⟨column, -, field⟩ := List.mem_filterMap.mp member
    exact composed_card_field dataset row column text field
  exact Markup.composed_element (by decide) (Markup.attributed_firm (by decide))
    (Markup.composed_flatten (Markup.composed_all_of_forall each))

theorem card_grid_gives (config : Config) (dataset : Dataset) (marker : Marker)
    (entry : Option Entry) :
    Gives (cardGrid config dataset marker entry) (Composed Token.Firm []) := by
  unfold cardGrid
  apply gives_after
  intro rows
  apply gives_after
  intro selected
  split
  · exact gives_pure (Markup.composed_element (by decide) (Markup.attributed_firm (by decide))
      (Markup.composed_plain (by decide)))
  · apply gives_pure
    apply Markup.composed_element (by decide) (Markup.attributed_firm (by decide))
    exact Markup.composed_each fun row _ => composed_card dataset _ row

theorem cards_give (config : Config) (store : Store) (marker : Marker) :
    Gives (cardsView config store marker) (Composed Token.Firm []) := by
  unfold cardsView
  simp only
  split
  · apply gives_after
    intro _
    apply gives_pure
    apply composed_titled_view marker _ (by decide)
    exact Markup.composed_element (by decide) (Markup.attributed_firm (by decide))
      (Markup.composed_plain (by decide))
  · exact gives_map (card_grid_gives config _ marker _) fun grid inside =>
      composed_titled_view marker _ (by decide) inside

/-! ## Forms -/

/-- The flag of controls that have to be filled in. -/
def requiredFlag : Markup.Name := ⟨"required", by decide⟩

theorem required_flags : ∀ flag ∈ [requiredFlag], flag.text = "required" :=
  List.forall_mem_singleton.mpr rfl

theorem built_form_input {kind name : Text} (firmKind : startsFirm kind = true)
    (firmName : startsFirm name = true) : Built (formInput kind name) :=
  Markup.built_void [requiredFlag] (by decide) (by decide) required_flags
    (Markup.attributed_cons (by decide) firmKind
      (Markup.attributed_cons (by decide) firmName
        (Markup.attributed_cons (by decide) firmName Markup.attributed_nil)))

theorem built_message_box : Built messageBox :=
  Markup.built_flagged [requiredFlag] (by decide) required_flags (Markup.attributed_firm (by decide))
    (Markup.built_of_composed Markup.composed_nil)

theorem built_form_field {name label control : Text} (firm : startsFirm name = true)
    (plain : Text.escape label = label) (inside : Built control) :
    Built (formField name label control) := by
  have labelled : Composed Token.Firm [] (Markup.element "label" [("for", name)] label) :=
    Markup.composed_element (by decide)
      (Markup.attributed_cons (by decide) firm Markup.attributed_nil) (Markup.composed_plain plain)
  exact Markup.built_element (by decide) (Markup.attributed_firm (by decide))
    (Markup.built_append (Markup.built_of_composed labelled) inside)

theorem built_form_fields : Built formFields := by
  have input {kind name : Text} (firmKind : startsFirm kind = true)
      (firmName : startsFirm name = true) {label : Text} (plain : Text.escape label = label) :
      Built (formField name label (formInput kind name)) :=
    built_form_field firmName plain (built_form_input firmKind firmName)
  apply Markup.built_append
  · apply Markup.built_append
    · exact input (by decide) (by decide) (by decide)
    · exact input (by decide) (by decide) (by decide)
  · exact built_form_field (by decide) (by decide) built_message_box

theorem built_form (marker : Marker) : Built (formView marker) := by
  have button (submit : Text) : Composed Token.Firm [] (Markup.element "div" [("class", "form-submit")]
      (Markup.element "button" [("type", "submit"), ("class", "wp-button")] (Text.escape submit))) :=
    Markup.composed_element (by decide) (Markup.attributed_firm (by decide))
      (Markup.composed_element (by decide) (Markup.attributed_firm (by decide))
        (Markup.composed_escape submit))
  have title (text : Text) : Composed Token.Firm [] (Markup.element "h3" [] (Text.escape text)) :=
    Markup.composed_element (by decide) Markup.attributed_nil (Markup.composed_escape text)
  unfold formView
  apply Markup.built_element (by decide)
  · exact Markup.attributed_cons (by decide) (class_names_firm _ (by decide))
      (Markup.attributed_cons (by decide) (by rfl) Markup.attributed_nil)
  · apply Markup.built_append (Markup.built_of_composed (title _))
    apply Markup.built_element (by decide) (Markup.attributed_firm (by decide))
    exact Markup.built_append built_form_fields (Markup.built_of_composed (button _))

/-! ## All views -/

theorem table_gives (config : Config) (store : Store) (marker : Marker) (headings : List Heading)
    (noContents : isContents config (store.entry? marker.id) = false) :
    Gives (tableMarkerView config store marker headings) (Composed Token.Firm []) := by
  unfold tableMarkerView
  split
  · exact gives_after fun _ => gives_pure (composed_error _)
  · simp only [noContents, Bool.false_eq_true, if_false]
    apply gives_after
    intro selected
    exact gives_pure (composed_table_view _ _ _ _)

/-- Whatever a store and a marker hold, the view of a table, a chart, cards or a form is well-formed,
holds no marker with an id, and is left alone by a further expansion. -/
theorem view_nested_and_inert (config : Config) (store : Store) (headings : List Heading)
    (marker : Marker) (ofData : marker.kind ≠ .contents)
    (noContents : marker.kind = .table → isContents config (store.entry? marker.id) = false)
    (text : Text) (viewed : (view config store headings marker).outcome = .ok text) :
    Markup.Nested text ∧
      (∃ found, Marker.scan text = .ok found ∧ ∀ one ∈ found, one.marker = none) ∧
      ∀ config store, (expand config store text).outcome = .ok text := by
  have built : Gives (view config store headings marker) Built := by
    apply gives_after
    intro _
    cases kind : marker.kind with
    | contents => exact absurd kind ofData
    | table =>
        intro text outcome
        exact Markup.built_of_composed
          (table_gives config store marker headings (noContents kind) text outcome)
    | chart =>
        intro text outcome
        exact Markup.built_of_composed (chart_gives config store marker text outcome)
    | cards =>
        intro text outcome
        exact Markup.built_of_composed (cards_give config store marker text outcome)
    | form => exact gives_pure (built_form marker)
  have standing := Markup.built_standing (built text viewed)
  obtain ⟨headings, readable⟩ := readable_of_nondecimal (Markup.built_nondecimal (built text viewed))
  exact ⟨Markup.built_nested (built text viewed), Render.scan_of_standing_nil readable standing,
    Render.expand_of_standing_nil readable standing⟩

/-- A table whose id opens a marker, and whose title and cells look like the rest of one and like tags. -/
def hostileStore : Store where
  datasets := [
    { id := "[richdoc_toc id=", header := [("</th>" : Text)],
      rows := [[("\"] [richdoc_form id=\"f\"]" : Text)]] }]

def hostileTable : Marker where
  kind := .table
  id := "[richdoc_toc id="
  attributes := [("title", "] <b class=\"x\">")]

theorem hostile_table_inert :
    hostileTable.kind ≠ .contents ∧
      (hostileTable.kind = .table →
        isContents {} (hostileStore.entry? hostileTable.id) = false) ∧
      ∃ text, (view {} hostileStore [] hostileTable).outcome = .ok text ∧ Markup.Nested text ∧
        (∃ found, Marker.scan text = .ok found ∧ ∀ one ∈ found, one.marker = none) ∧
        ∀ config store, (expand config store text).outcome = .ok text := by
  have ofData : hostileTable.kind ≠ .contents := by decide
  have noContents : hostileTable.kind = .table →
      isContents {} (hostileStore.entry? hostileTable.id) = false := fun _ => rfl
  obtain ⟨text, viewed⟩ : ∃ text, (view {} hostileStore [] hostileTable).outcome = .ok text :=
    ⟨_, rfl⟩
  exact ⟨ofData, noContents, _, viewed,
    view_nested_and_inert {} hostileStore [] hostileTable ofData noContents _ viewed⟩

end RichText.Page
