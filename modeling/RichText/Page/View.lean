import RichText.Config
import RichText.Dataset.Selection
import RichText.Fault
import RichText.Marker
import RichText.Markup
import RichText.Page.Amount
import RichText.Page.Heading
import RichText.Page.Label
import RichText.Store

/-!
The views that markers stand for: data tables, tables of contents, charts, cards and forms. A marker
whose data is missing becomes an error box or a placeholder.
-/

namespace RichText.Page

abbrev View := Traced Fault Text

def errorBox (message : Text) : Text :=
  Markup.element "div" [("class", "richdoc-error")] (Text.escape message)

/-- The class names that are not empty. -/
def classNames (names : List Text) : Text :=
  Text.join " " (names.filter fun name => !name.isEmpty)

/-- The name that an item of a column selection gives. -/
def columnName? (item : Value) : Option Text :=
  let name :=
    match item.opened with
    | .map entries => Value.field "name" entries
    | _ => item
  match name with
  | .text name => if (Text.trim name).isEmpty then none else some name
  | _ => none

/-- The filters of an entry that may be missing. -/
def filtersOf (entry : Option Entry) : Value :=
  match entry with
  | some entry => entry.field "filters"
  | none => .null

/-- The columns that an entry selects; none if it selects nothing. -/
def selectedColumns (entry : Option Entry) : Except Fault (Option (List Text)) :=
  match (filtersOf entry).opened with
  | .map filters =>
      let selection := Value.field "selectedColumns" filters
      if selection.isTruthy then
        match selection.series? with
        | some items =>
            let names := items.filterMap columnName?
            .ok (if names.isEmpty then none else some names)
        | none => .error .columnsNotASeries
      else .ok none
  | _ => .ok none

def firstText : List Text → Text
  | [] => []
  | text :: texts => if text.isEmpty then firstText texts else text

/-- A field of an entry that may be missing. -/
def entryText (entry : Option Entry) (name : Text) : Text :=
  (entry.map fun entry => entry.fieldText name).getD []

/-! ## Tables -/

/-- A dataset as a table, cut down to what a marker asks for. The title is shown only for a table
without a key hint. -/
def tableView (settings : TableSettings) (dataset : Dataset) (hint : Option Text)
    (selected : Option (List Text)) : Noted Text := do
  let table ← dataset.select hint (selected.getD settings.displayColumns)
  let title : List Text :=
    if !dataset.title.isEmpty && settings.showTitle && hint.isNone then
      [Markup.heading 3 (Text.escape dataset.title)]
    else []
  let content := Text.join "\n" (title ++ [Markup.dataTable table.header table.rows "richdoc-table"])
  return Markup.division content "richdoc-data-table" ("richdoc-table-" ++ dataset.id)

/-! ## Tables of contents -/

def contentsItem (anchor text : Text) : Text :=
  Markup.listItem (Markup.link ('#' :: anchor) (Text.escape text))

/-- The text of a value, empty for one that does not count as present. -/
def presentText (value : Value) : Text := if value.isTruthy then value.toText else []

def fixedItem? (item : Value) : Option Text :=
  match item.opened with
  | .map entries =>
      let text := presentText (Value.field "text" entries)
      let anchor := firstText [presentText (Value.field "anchor" entries), Text.slug text]
      if text.isEmpty then none else some (contentsItem anchor text)
  | _ => none

/-- The heading level that a tag such as `H2` names, if it has the form of one. -/
def levelOf (tag : Value) : Except Fault (Option Nat) :=
  match Text.lower (Text.trim tag.toText) with
  | ['h', digit] =>
      if Text.isDigit digit then
        match Text.decimalValue digit with
        | some level => .ok (some level)
        | none => .error .ornamentalLevel
      else .ok none
  | _ => .ok none

/-- The tags that a table of contents lists headings of. -/
def headerTags (entry : Entry) : List Value :=
  let tags := entry.field "headerTags"
  if tags.isTruthy then
    match tags.opened with
    | .list items => items
    | _ => [tags]
  else [.text "H2"]

def headingItems (entry : Entry) (headings : List Heading) : Except Fault (List Text) := do
  let levels ← (headerTags entry).mapM levelOf
  return (headings.filter fun heading => levels.contains (some heading.level)).map fun heading =>
    contentsItem heading.anchor heading.text

def contentsItems (entry : Entry) (headings : List Heading) : Except Fault (List Text) :=
  match (entry.field "items").opened with
  | .list items => .ok (items.filterMap fixedItem?)
  | _ => headingItems entry headings

def contentsView (store : Store) (marker : Marker) (headings : List Heading) : View :=
  match store.entry? marker.id with
  | none => do
      Traced.note (.unknownContents marker.id)
      return errorBox ("Error: TOC \"" ++ marker.id ++ "\" not found.")
  | some entry => do
      let style := Text.lower (entry.fieldText "style" "List")
      let sticky : Text := if (entry.field "isSticky").isTruthy then "toc-sticky" else []
      let classes := classNames
        ["richdoc-toc", "toc-style-" ++ Text.slug style, sticky, marker.attributeOf "class"]
      let title := firstText [marker.attributeOf "title", entry.fieldText "title"]
      let items ← Traced.ofExcept (contentsItems entry headings)
      if items.isEmpty then
        Traced.note (.emptyContents marker.id)
        return Markup.placeholder ("Table of contents: " ++ marker.id ++ " (no headings)")
      else
        let titles : List Text :=
          if title.isEmpty then []
          else [Markup.element "h3" [("class", "toc-title")] (Text.escape title)]
        let parts := titles ++ [Markup.listBlock items false "toc-list"]
        return Markup.element "div" [("class", classes), ("id", "richdoc-toc-" ++ marker.id)]
          (Markup.lines (Text.join "\n" parts))

/-! ## Charts and cards -/

/-- The frame of a chart or of cards, with a title if there is one. -/
def titledView (name : Text) (marker : Marker) (title content : Text) : Text :=
  let classes := classNames ["richdoc-" ++ name, marker.attributeOf "class"]
  let titles : List Text :=
    if title.isEmpty then []
    else [Markup.element "h3" [("class", name ++ "-title")] (Text.escape title)]
  Markup.element "div" [("class", classes), ("id", "richdoc-" ++ name ++ "-" ++ marker.id)]
    (Markup.lines (Text.join "\n" (titles ++ [content])))

/-- A row of a chart: amounts after the first cell. -/
def chartRow (labelPrefix : Text) : List Text → Except Fault (List Text)
  | [] => .ok []
  | label :: cells => do
      let amounts ← cells.mapM fun cell => Amount.shown cell labelPrefix
      return label :: amounts

def chartView (config : Config) (store : Store) (marker : Marker) : View := do
  let entry := store.entry? marker.id
  let ownTitle := firstText [marker.attributeOf "title", entryText entry "title"]
  match store.dataset? marker.id with
  | none =>
      let kind := firstText [entryText entry "visualizationType", marker.attributeOf "type"]
      Traced.note (.chartWithoutDataset marker.id)
      return titledView "chart" marker ownTitle
        (Markup.element "p" [("class", "chart-placeholder")] ("[" ++ Text.escape kind ++ "]"))
  | some dataset =>
      let labelPrefix := firstText [entryText entry "labelPrefix", config.charts.labelPrefix]
      let rows ← Traced.ofExcept (dataset.rows.mapM (chartRow labelPrefix))
      return titledView "chart" marker (firstText [ownTitle, dataset.title])
        (Markup.dataTable dataset.header rows "richdoc-table richdoc-chart-table")

/-- The columns of cards: the selected ones, or all that are not hidden; never the key column. -/
def cardColumns (settings : CardSettings) (dataset : Dataset) (selected : Option (List Text)) :
    List Nat :=
  match selected with
  | some names => Dataset.visibleColumns dataset.header dataset.keyColumn names
  | none =>
      let hidden := settings.hiddenColumns.map KeyMatch.normal
      (List.range dataset.header.length).filter fun column =>
        !hidden.contains (KeyMatch.normal (Dataset.cellAt dataset.header column)) &&
          (column : Int) ≠ dataset.keyColumn

/-- A field of a card; an empty cell has none. -/
def cardField? (dataset : Dataset) (row : List Text) (column : Nat) : Option Text :=
  let cell := Dataset.cellAt row column
  let header := Dataset.cellAt dataset.header column
  let label : Text :=
    if header.isEmpty then []
    else
      Markup.element "span" [("class", "card-label")] (Text.escape (Label.ofName header) ++ ":") ++
        " "
  if cell.isEmpty then none
  else
    some (Markup.element "div" [("class", "card-field")]
      (label ++ Markup.element "span" [("class", "card-value")] (Text.escape cell)))

def card (dataset : Dataset) (columns : List Nat) (row : List Text) : Text :=
  Markup.element "div" [("class", "richdoc-card")] (columns.filterMap (cardField? dataset row)).flatten

/-- The rows that cards are made of: those that a hint selects, or all. -/
def cardRows (dataset : Dataset) (hint : Option Text) : Noted (List (List Text)) :=
  match hint with
  | none => pure dataset.rows
  | some hint =>
      if dataset.hasKeyColumn then do
        let keys ← dataset.resolveKeys hint
        return if keys.isEmpty then dataset.rows else dataset.rowsWithKeys keys
      else pure dataset.rows

/-- The hint of a marker: its `filters` attribute if that is not blank, else its key. -/
def filterHint (marker : Marker) : Option Text :=
  let filters := Text.trim (marker.attributeOf "filters")
  if filters.isEmpty then marker.keyHint? else some filters

def cardGrid (config : Config) (dataset : Dataset) (marker : Marker) (entry : Option Entry) : View := do
  let rows ← (cardRows dataset (filterHint marker) : Noted (List (List Text)))
  let selected ← Traced.ofExcept (selectedColumns entry)
  if rows.isEmpty then
    return Markup.element "p" [("class", "cards-placeholder")] "No listings found."
  else
    let columns := cardColumns config.cards dataset selected
    return Markup.element "div" [("class", "cards-grid")] (rows.map (card dataset columns)).flatten

def cardsView (config : Config) (store : Store) (marker : Marker) : View := do
  let entry := store.entry? marker.id
  let title := firstText [marker.attributeOf "title", entryText entry "title"]
  match store.dataset? marker.id with
  | none =>
      Traced.note (.cardsWithoutDataset marker.id)
      return titledView "cards" marker title
        (Markup.element "p" [("class", "cards-placeholder")] "[Provider listings]")
  | some dataset =>
      let grid ← cardGrid config dataset marker entry
      return titledView "cards" marker title grid

/-! ## Forms -/

def formField (name label control : Text) : Text :=
  Markup.element "div" [("class", "form-field")]
    (Markup.element "label" [("for", name)] label ++ control)

def formInput (kind name : Text) : Text :=
  Markup.voidElement "input" [("type", kind), ("id", name), ("name", name)] ["required"]

def messageBox : Text :=
  Markup.flaggedElement "textarea" [("id", "message"), ("name", "message"), ("rows", "5")]
    ["required"] []

def formFields : Text :=
  formField "name" "Name" (formInput "text" "name") ++
    formField "email" "Email" (formInput "email" "email") ++
    formField "message" "Message" messageBox

def formView (marker : Marker) : Text :=
  let title := firstText [marker.attributeOf "title", "Contact Us"]
  let submit := firstText [marker.attributeOf "submit", "Send"]
  let classes := classNames ["richdoc-form-container", marker.attributeOf "class"]
  let button :=
    Markup.element "button" [("type", "submit"), ("class", "wp-button")] (Text.escape submit)
  Markup.element "div" [("class", classes), ("id", "richdoc-form-" ++ marker.id)]
    (Markup.element "h3" [] (Text.escape title) ++
      Markup.element "form" [("class", "richdoc-form"), ("method", "post")]
        (formFields ++ Markup.element "div" [("class", "form-submit")] button))

/-! ## Markers -/

def isContents (config : Config) (entry : Option Entry) : Bool :=
  match entry with
  | some entry => entry.kind config.contentTypes.aliases = .tableOfContents
  | none => false

/-- The view of a table marker. Where the entry is a table of contents, that is shown. -/
def tableMarkerView (config : Config) (store : Store) (marker : Marker) (headings : List Heading) :
    View :=
  match store.dataset? marker.id with
  | none => do
      Traced.note (.unknownDataset marker.id)
      return errorBox ("Error: Table \"" ++ marker.id ++ "\" not found. Available tables: " ++
        Text.join ", " store.datasetIds)
  | some dataset => do
      let entry := store.entry? marker.id
      if isContents config entry then contentsView store marker headings
      else
        let title := Text.trim (marker.attributeOf "title")
        let dataset := if title.isEmpty then dataset else { dataset with title }
        let selected ← Traced.ofExcept (selectedColumns entry)
        (tableView config.tables dataset (filterHint marker) selected : Noted Text)

/-- The view that a marker stands for on a page with the given headings. -/
def view (config : Config) (store : Store) (headings : List Heading) (marker : Marker) : View := do
  Traced.note (.expandingMarker marker.kind.tag marker.id)
  match marker.kind with
  | .table => tableMarkerView config store marker headings
  | .contents => contentsView store marker headings
  | .chart => chartView config store marker
  | .cards => cardsView config store marker
  | .form => pure (formView marker)

end RichText.Page
