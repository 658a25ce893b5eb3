import Mathlib.Data.List.Forall2
import RichText.Csv
import RichText.Proofs.Text.Join
import RichText.Proofs.Text.Span

/-!
Reading comma-separated text undoes writing it. A field begins with nothing read of it, and when the
reader has gone over a spelling of the field it holds the field and nothing else; so each line comes back
as its fields. A table comes back as its cells, however each of them was spelled and whatever blank lines
stand between the rows.
-/

namespace RichText.Csv

/-! ## Spellings -/

/-- A character of a bare field: it ends neither the field nor the line, and it is no quote. -/
def isBareChar (char : Char) : Bool :=
  !(char = ',' || char = '"' || char = '\n' || char = '\r')

/-- What stands between the quotes of a quoted field. -/
def doubled (field : Text) : Text := Text.replace '"' "\"\"" field

/-- The spellings of a field, quoted and bare. -/
inductive FieldWritten : Text → Text → Prop
  | quoted {field : Text} (fits : field.length ≤ cellLimit) :
      FieldWritten field ('"' :: (doubled field ++ [('"' : Char)]))
  | bare {field : Text} (plain : ∀ char ∈ field, isBareChar char = true)
      (fits : field.length ≤ cellLimit) : FieldWritten field field

inductive LineEnd : Text → Prop
  | feed : LineEnd "\n"
  | returnAndFeed : LineEnd "\r\n"

/-- Lines of fields. A line without any character has no field, not even an empty one. -/
inductive LinesWritten : List (List Text) → Text → Prop
  | nil : LinesWritten [] []
  | empty {ending text : Text} {lines : List (List Text)} (ends : LineEnd ending)
      (others : LinesWritten lines text) : LinesWritten ([] :: lines) (ending ++ text)
  | fields {fields spelled : List Text} {ending text : Text} {lines : List (List Text)}
      (written : List.Forall₂ FieldWritten fields spelled) (present : Text.join "," spelled ≠ [])
      (ends : LineEnd ending) (others : LinesWritten lines text) :
      LinesWritten (fields :: lines) (Text.join "," spelled ++ ending ++ text)

/-! ## Fields -/

/-- A line of which the given cells are complete and of whose last cell a part has been read. -/
def Line.holding (place : Place) (cells : List Text) (part : Text) : Line :=
  ⟨place, cells.reverse, part.reverse, part.length⟩

/-- The reader goes over a piece of a line and comes to another place in it. -/
def Goes (line : Line) (piece : Text) (next : Line) : Prop :=
  ∀ rest, rowsFrom line (piece ++ rest) = rowsFrom next rest

theorem bare_char_cases {char : Char} (plain : isBareChar char = true) :
    char ≠ ',' ∧ char ≠ '"' ∧ char ≠ '\n' ∧ char ≠ '\r' := by
  simpa only [isBareChar, Bool.not_eq_true', Bool.or_eq_false_iff, decide_eq_false_iff_not,
    and_assoc] using plain

section Fields

variable {line next : Line} {char : Char} {cells : List Text} {part field : Text}

theorem goes_nil (line : Line) : Goes line [] line := fun _ => rfl

theorem goes_append {last : Line} {piece more : Text} (goes : Goes line piece next)
    (further : Goes next more last) : Goes line (piece ++ more) last := by
  intro rest
  rw [List.append_assoc, goes, further]

theorem goes_step (stepped : line.step char = .ok next)
    (within : char ≠ '\n' ∨ next.place ≠ .lineEnd) : Goes line [char] next := by
  intro rest
  have goesOn : ¬((decide (char = '\n') && decide (next.place = .lineEnd)) = true) := by
    rw [Bool.and_eq_true, decide_eq_true_eq, decide_eq_true_eq, not_and_or]
    exact within
  rw [List.singleton_append, rowsFrom, stepped]
  simp only [if_neg goesOn]

theorem add_holding (place other : Place) (room : part.length < cellLimit) :
    (Line.holding place cells part).add other char = .ok (.holding other cells (part ++ [char])) := by
  have added : Line.holding other cells (part ++ [char]) =
      ⟨other, cells.reverse, char :: part.reverse, part.length + 1⟩ := by
    simp [Line.holding]
  rw [added]
  exact if_neg (Nat.not_le.mpr room)

theorem close_holding (place other : Place) :
    (Line.holding place cells part).close other = .holding other (cells ++ [part]) [] := by
  simp [Line.holding, Line.close]

theorem quoted_char_goes (char : Char) (room : part.length < cellLimit) :
    Goes (.holding .quoted cells part) (doubled [char]) (.holding .quoted cells (part ++ [char])) := by
  by_cases quote : char = '"'
  · subst char
    have seen : Goes (.holding .quoted cells part) [('"' : Char)] (.holding .quoteSeen cells part) :=
      goes_step rfl (.inl (by decide))
    have again : Goes (.holding .quoteSeen cells part) [('"' : Char)]
        (.holding .quoted cells (part ++ [('"' : Char)])) :=
      goes_step (add_holding .quoteSeen .quoted room) (.inl (by decide))
    have twice : doubled [('"' : Char)] = [('"' : Char)] ++ [('"' : Char)] := rfl
    rw [twice]
    exact goes_append seen again
  · have alone : doubled [char] = [char] := by simp [doubled, Text.replace, quote]
    have step : (Line.holding .quoted cells part).step char =
        .ok (.holding .quoted cells (part ++ [char])) :=
      (if_neg quote).trans (add_holding .quoted .quoted room)
    rw [alone]
    exact goes_step step (.inr nofun)

theorem bare_char_goes (plain : isBareChar char = true) (room : part.length < cellLimit) :
    Goes (.holding .bare cells part) [char] (.holding .bare cells (part ++ [char])) := by
  obtain ⟨notComma, -, notFeed, notReturn⟩ := bare_char_cases plain
  have step : (Line.holding .bare cells part).step char =
      (Line.holding .bare cells part).add .bare char := by
    simp [Line.step, Line.holding, notComma, notFeed, notReturn]
  exact goes_step (step.trans (add_holding .bare .bare room)) (.inl notFeed)

theorem quoted_goes (fits : (part ++ field).length ≤ cellLimit) :
    Goes (.holding .quoted cells part) (doubled field) (.holding .quoted cells (part ++ field)) := by
  induction field generalizing part with
  | nil =>
      rw [List.append_nil]
      exact goes_nil _
  | cons char field induction =>
      have whole : doubled (char :: field) = doubled [char] ++ doubled field := by
        simp [doubled, Text.replace]
      have moved : part ++ char :: field = part ++ [char] ++ field := by simp
      have room : part.length < cellLimit := by
        rw [List.length_append, List.length_cons] at fits
        omega
      rw [moved] at fits ⊢
      rw [whole]
      exact goes_append (quoted_char_goes char room) (induction fits)

theorem bare_goes (plain : ∀ char ∈ field, isBareChar char = true)
    (fits : (part ++ field).length ≤ cellLimit) :
    Goes (.holding .bare cells part) field (.holding .bare cells (part ++ field)) := by
  induction field generalizing part with
  | nil =>
      rw [List.append_nil]
      exact goes_nil _
  | cons char field induction =>
      obtain ⟨first, others⟩ := List.forall_mem_cons.mp plain
      have moved : part ++ char :: field = part ++ [char] ++ field := by simp
      have room : part.length < cellLimit := by
        rw [List.length_append, List.length_cons] at fits
        omega
      rw [moved] at fits ⊢
      exact goes_append (bare_char_goes first room) (induction others fits)

/-- Where the reader may be when it has gone over a whole field. -/
def Place.EndsField (place : Place) : Prop :=
  place = .cellStart ∨ place = .bare ∨ place = .quoteSeen

/-- The reader takes up a field as a whole. -/
theorem field_goes {spelled : Text} (written : FieldWritten field spelled) (cells : List Text) :
    ∃ place : Place, place.EndsField ∧
      Goes (.holding .cellStart cells []) spelled (.holding place cells field) := by
  cases written with
  | quoted fits =>
      have opened : Goes (.holding .cellStart cells []) [('"' : Char)] (.holding .quoted cells []) :=
        goes_step rfl (.inl (by decide))
      have inside : Goes (.holding .quoted cells []) (doubled field) (.holding .quoted cells field) :=
        quoted_goes fits
      have closed : Goes (.holding .quoted cells field) [('"' : Char)]
          (.holding .quoteSeen cells field) := goes_step rfl (.inl (by decide))
      have whole := goes_append opened (goes_append inside closed)
      exact ⟨.quoteSeen, .inr (.inr rfl), whole⟩
  | bare plain fits =>
      cases field with
      | nil => exact ⟨.cellStart, .inl rfl, goes_nil _⟩
      | cons char field =>
          obtain ⟨first, others⟩ := List.forall_mem_cons.mp plain
          obtain ⟨notComma, notQuote, notFeed, notReturn⟩ := bare_char_cases first
          have room : ([] : Text).length < cellLimit := by decide
          have step : (Line.holding .cellStart cells []).step char =
              (Line.holding .cellStart cells []).add .bare char := by
            simp [Line.step, Line.begin, Line.holding, notComma, notQuote, notFeed, notReturn]
          have opened : Goes (.holding .cellStart cells []) [char] (.holding .bare cells [char]) :=
            goes_step (step.trans (add_holding .cellStart .bare room)) (.inl notFeed)
          have inside : Goes (.holding .bare cells [char]) field (.holding .bare cells (char :: field)) :=
            bare_goes others fits
          exact ⟨.bare, .inr (.inl rfl), goes_append opened inside⟩

end Fields

/-! ## Lines -/

section Lines

variable {place : Place} (ended : place.EndsField) (cells : List Text) (field : Text)

include ended

theorem comma_goes :
    Goes (.holding place cells field) "," (.holding .cellStart (cells ++ [field]) []) := by
  have comma : (",".toList : Text) = [(',' : Char)] := rfl
  rw [← close_holding place .cellStart, comma]
  obtain rfl | rfl | rfl : place = .cellStart ∨ place = .bare ∨ place = .quoteSeen := ended
  all_goals exact goes_step rfl (.inl (by decide))

/-- The end of a line completes its last cell. -/
theorem line_end_read {ending : Text} (ends : LineEnd ending) (rest : Text) :
    rowsFrom (.holding place cells field) (ending ++ rest) =
      (rowsFrom .empty rest).map ((cells ++ [field]) :: ·) := by
  have row : ((Line.holding place cells field).close .lineEnd).row = cells ++ [field] := by
    rw [close_holding, Line.row, Line.holding, List.reverse_reverse]
  rw [← row]
  obtain rfl | rfl | rfl : place = .cellStart ∨ place = .bare ∨ place = .quoteSeen := ended
  all_goals
    cases ends with
    | feed => rfl
    | returnAndFeed => rfl

end Lines

theorem fields_read {fields spelled : List Text} {ending : Text}
    (written : List.Forall₂ FieldWritten fields spelled) (present : fields ≠ [])
    (ends : LineEnd ending) (cells : List Text) (rest : Text) :
    rowsFrom (.holding .cellStart cells []) (Text.join "," spelled ++ ending ++ rest) =
      (rowsFrom .empty rest).map ((cells ++ fields) :: ·) := by
  induction written generalizing cells with
  | nil => exact absurd rfl present
  | @cons field text fields spelled first others induction =>
      obtain ⟨place, ended, goes⟩ := field_goes first cells
      cases others with
      | nil =>
          rw [Text.join_cons, List.flatMap_nil, List.append_nil, List.append_assoc, goes,
            line_end_read ended cells field ends]
      | @cons next nextText fields spelled second others =>
          have further := induction (List.cons_ne_nil _ _) (cells ++ [field])
          rw [Text.join_cons_cons, List.append_assoc, List.append_assoc, List.append_assoc, goes,
            comma_goes ended, ← List.append_assoc, further, List.append_assoc, List.singleton_append]

/-- At the start of a line a field begins like any other. -/
theorem line_start_read {char : Char} (notFeed : char ≠ '\n') (notReturn : char ≠ '\r')
    (rest : Text) :
    rowsFrom .empty (char :: rest) = rowsFrom (.holding .cellStart [] []) (char :: rest) := by
  have same : Line.empty.step char = (Line.holding .cellStart [] []).step char := by
    simp [Line.step, Line.empty, Line.holding, Line.begin, Line.close, Line.add, notFeed, notReturn]
  rw [rowsFrom, rowsFrom, same]

/-- No spelling of a field starts with the end of a line. -/
theorem field_head {field rest : Text} {char : Char} (written : FieldWritten field (char :: rest)) :
    char ≠ '\n' ∧ char ≠ '\r' := by
  cases written with
  | quoted fits => decide
  | bare plain fits => exact (bare_char_cases (plain char List.mem_cons_self)).2.2

theorem line_head {fields spelled : List Text} {char : Char} {rest : Text}
    (written : List.Forall₂ FieldWritten fields spelled)
    (whole : Text.join "," spelled = char :: rest) : char ≠ '\n' ∧ char ≠ '\r' := by
  cases written with
  | nil => exact absurd whole nofun
  | @cons field text fields spelled first others =>
      rw [Text.join_cons] at whole
      cases text with
      | cons start text =>
          obtain rfl : start = char := (List.cons.inj whole).1
          exact field_head first
      | nil =>
          cases spelled with
          | nil => exact absurd whole nofun
          | cons next spelled =>
              obtain rfl : ',' = char := (List.cons.inj whole).1
              decide

theorem line_read {fields spelled : List Text} {ending : Text}
    (written : List.Forall₂ FieldWritten fields spelled) (present : Text.join "," spelled ≠ [])
    (ends : LineEnd ending) (rest : Text) :
    rowsFrom .empty (Text.join "," spelled ++ ending ++ rest) =
      (rowsFrom .empty rest).map (fields :: ·) := by
  have some : fields ≠ [] := by
    rintro rfl
    cases written
    exact present rfl
  have read := fields_read written some ends [] rest
  obtain ⟨char, more, whole⟩ := List.exists_cons_of_ne_nil present
  obtain ⟨notFeed, notReturn⟩ := line_head written whole
  rw [whole, List.cons_append, List.cons_append] at read ⊢
  rw [line_start_read notFeed notReturn, read]
  rfl

theorem empty_line_read {ending : Text} (ends : LineEnd ending) (rest : Text) :
    rowsFrom .empty (ending ++ rest) = (rowsFrom .empty rest).map ([] :: ·) := by
  cases ends with
  | feed => rfl
  | returnAndFeed => rfl

/-- Every line comes back as its fields. -/
theorem rows_written {lines : List (List Text)} {text : Text} (written : LinesWritten lines text) :
    rows text = .ok lines := by
  unfold rows
  induction written with
  | nil => rfl
  | empty ends others induction =>
      rw [empty_line_read ends, induction]
      rfl
  | fields written present ends others induction =>
      rw [line_read written present ends, induction]
      rfl

/-! ## Tables -/

/-- The spellings of a cell: quoted, or bare with spaces and tabulators around it. -/
inductive CellWritten : Text → Text → Prop
  | quoted {cell : Text} (fits : cell.length ≤ cellLimit) :
      CellWritten cell ('"' :: (doubled cell ++ [('"' : Char)]))
  | bare {before cell after : Text} (padding : ∀ char ∈ before ++ after, char = ' ' ∨ char = '\t')
      (plain : ∀ char ∈ cell, isBareChar char = true)
      (fits : (before ++ cell ++ after).length ≤ cellLimit) :
      CellWritten cell (before ++ cell ++ after)

/-- A field of a line without content. Blanks of any kind are allowed that do not end the line. -/
structure BlankField (field : Text) : Prop where
  blank : ∀ char ∈ field, Text.isBlank char = true ∧ isBareChar char = true
  fits : field.length ≤ cellLimit

instance : DecidablePred BlankField := fun field =>
  decidable_of_iff
    ((field.all fun char => Text.isBlank char && isBareChar char) = true ∧ field.length ≤ cellLimit)
    (by
      simp only [List.all_eq_true, Bool.and_eq_true]
      exact ⟨fun ⟨blank, fits⟩ => ⟨blank, fits⟩, fun ⟨blank, fits⟩ => ⟨blank, fits⟩⟩)

/-- Rows of cells, one on each line, and lines without content between them. -/
inductive TableWritten : List (List Text) → Text → Prop
  | nil : TableWritten [] []
  | row {row spelled : List Text} {ending text : Text} {rows : List (List Text)}
      (written : List.Forall₂ CellWritten row spelled) (ends : LineEnd ending)
      (others : TableWritten rows text) :
      TableWritten (row :: rows) (Text.join "," spelled ++ ending ++ text)
  | blank {fields : List Text} {ending text : Text} {rows : List (List Text)}
      (blank : ∀ field ∈ fields, BlankField field) (ends : LineEnd ending)
      (others : TableWritten rows text) :
      TableWritten rows (Text.join "," fields ++ ending ++ text)

/-- Whether a row has a cell with text. -/
def isFilled (row : List Text) : Bool := row.any fun cell => !cell.isEmpty

def keptRows (lines : List (List Text)) : List (List Text) :=
  (lines.map fun line => line.map Text.trim).filter isFilled

theorem parse_eq (text : Text) : parse text = (rows (dropByteOrderMark text)).map keptRows := rfl

theorem filled_iff (row : List Text) : isFilled row = true ↔ ∃ cell ∈ row, cell ≠ [] := by
  simp [isFilled]

/-- A row that a table keeps: its cells are trimmed, and not all of them are empty. -/
structure Kept (row : List Text) : Prop where
  trimmed : ∀ cell ∈ row, Text.trim cell = cell
  filled : ∃ cell ∈ row, cell ≠ []

instance : DecidablePred Kept := fun row =>
  decidable_of_iff ((∀ cell ∈ row, Text.trim cell = cell) ∧ ∃ cell ∈ row, cell ≠ [])
    ⟨fun ⟨trimmed, filled⟩ => ⟨trimmed, filled⟩, fun ⟨trimmed, filled⟩ => ⟨trimmed, filled⟩⟩

theorem cell_field {cell spelled : Text} (written : CellWritten cell spelled)
    (trimmed : Text.trim cell = cell) :
    ∃ field, FieldWritten field spelled ∧ Text.trim field = cell := by
  cases written with
  | quoted fits => exact ⟨cell, .quoted fits, trimmed⟩
  | @bare before cell after padding plain fits =>
      have blank : ∀ char ∈ before ++ after, Text.isBlank char = true ∧ isBareChar char = true := by
        intro char member
        rcases padding char member with rfl | rfl
        · decide
        · decide
      have around := List.forall_mem_append.mp blank
      refine ⟨before ++ cell ++ after, .bare ?_ fits, ?_⟩
      · rw [List.forall_mem_append, List.forall_mem_append]
        exact ⟨⟨fun char member => (around.1 char member).2, plain⟩,
          fun char member => (around.2 char member).2⟩
      · exact Text.trim_padded (fun char member => (around.1 char member).1)
          (fun char member => (around.2 char member).1) trimmed

theorem row_fields {row spelled : List Text} (written : List.Forall₂ CellWritten row spelled)
    (trimmed : ∀ cell ∈ row, Text.trim cell = cell) :
    ∃ fields, List.Forall₂ FieldWritten fields spelled ∧ fields.map Text.trim = row := by
  induction written with
  | nil => exact ⟨[], .nil, rfl⟩
  | cons first others induction =>
      obtain ⟨firstTrimmed, othersTrimmed⟩ := List.forall_mem_cons.mp trimmed
      obtain ⟨field, read, same⟩ := cell_field first firstTrimmed
      obtain ⟨fields, further, rest⟩ := induction othersTrimmed
      exact ⟨field :: fields, .cons read further, by rw [List.map_cons, same, rest]⟩

theorem cells_empty {row spelled : List Text} (written : List.Forall₂ CellWritten row spelled)
    (empty : ∀ text ∈ spelled, text = []) : ∀ cell ∈ row, cell = [] := by
  induction written with
  | nil => exact List.forall_mem_nil _
  | @cons cell text row spelled first others induction =>
      obtain ⟨firstEmpty, othersEmpty⟩ := List.forall_mem_cons.mp empty
      refine List.forall_mem_cons.mpr ⟨?_, induction othersEmpty⟩
      cases first with
      | quoted fits => exact absurd firstEmpty (List.cons_ne_nil _ _)
      | bare padding plain fits =>
          exact (List.append_eq_nil_iff.mp (List.append_eq_nil_iff.mp firstEmpty).1).2

/-- The rows are what is left of the lines when cells are trimmed and lines of empty cells left out. -/
theorem table_lines {rows : List (List Text)} {text : Text} (written : TableWritten rows text)
    (kept : ∀ row ∈ rows, Kept row) :
    ∃ lines, LinesWritten lines text ∧ keptRows lines = rows := by
  induction written with
  | nil => exact ⟨[], .nil, rfl⟩
  | @row row spelled ending text rows written ends others induction =>
      obtain ⟨here, further⟩ := List.forall_mem_cons.mp kept
      obtain ⟨lines, linesWritten, same⟩ := induction further
      obtain ⟨fields, fieldsWritten, trimmed⟩ := row_fields written here.trimmed
      obtain ⟨cell, inside, present⟩ := here.filled
      have shown : Text.join "," spelled ≠ [] := by
        intro empty
        exact present (cells_empty written (Text.part_empty_of_join empty) cell inside)
      refine ⟨fields :: lines, .fields fieldsWritten shown ends linesWritten, ?_⟩
      have stays : isFilled row = true := (filled_iff row).mpr here.filled
      rw [keptRows, List.map_cons, trimmed, List.filter_cons_of_pos stays, ← keptRows, same]
  | @blank fields ending text rows blank ends others induction =>
      obtain ⟨lines, linesWritten, same⟩ := induction kept
      have dropped : ¬isFilled (fields.map Text.trim) = true := by
        rw [filled_iff]
        rintro ⟨cell, inside, present⟩
        obtain ⟨field, member, rfl⟩ := List.mem_map.mp inside
        apply present
        rw [Text.trim_blank_iff]
        intro char occurs
        exact ((blank field member).blank char occurs).1
      by_cases shown : Text.join "," fields = []
      · refine ⟨[] :: lines, ?_, same⟩
        rw [shown, List.nil_append]
        exact .empty ends linesWritten
      · have fieldsWritten : List.Forall₂ FieldWritten fields fields := by
          rw [List.forall₂_same]
          intro field inside
          have blankField := blank field inside
          exact .bare (fun char member => (blankField.blank char member).2) blankField.fits
        refine ⟨fields :: lines, .fields fieldsWritten shown ends linesWritten, ?_⟩
        rw [keptRows, List.map_cons, List.filter_cons_of_neg dropped, ← keptRows, same]

/-- A table is read back from every spelling of it, after a byte order mark or, if it does not start with
one itself, without. -/
theorem written_table_read (rows : List (List Text)) (text : Text) (written : TableWritten rows text)
    (kept : ∀ row ∈ rows, Kept row) :
    parse ('\ufeff' :: text) = .ok rows ∧ (text.head? ≠ some '\ufeff' → parse text = .ok rows) := by
  obtain ⟨lines, linesWritten, same⟩ := table_lines written kept
  have read : (Csv.rows text).map keptRows = .ok rows := by
    rw [rows_written linesWritten]
    exact congrArg Except.ok same
  refine ⟨read, ?_⟩
  intro unmarked
  have unchanged : dropByteOrderMark text = text := by
    unfold dropByteOrderMark
    split
    · exact absurd rfl unmarked
    · rfl
  rw [parse_eq, unchanged, read]

def noteRows : List (List Text) := [["name", "note"], ["Ann", "a \"b\",\r\nc"], ["", "x"]]

def noteText : Text := " name\t,\"note\"\r\n, ,\n\nAnn,\"a \"\"b\"\",\r\nc\"\n,x\r\n"

/-- A table in mixed spellings: padded and quoted cells, a line end inside of quotes, an empty first cell,
and two lines without content. -/
theorem note_table_read :
    TableWritten noteRows noteText ∧ (∀ row ∈ noteRows, Kept row) ∧
      noteText.head? ≠ some '\ufeff' ∧
        parse ('\ufeff' :: noteText) = .ok noteRows ∧ parse noteText = .ok noteRows := by
  have plain (cell : Text) (bare : cell.all isBareChar = true) (fits : cell.length ≤ cellLimit) :
      CellWritten cell cell := by
    have alone := @CellWritten.bare [] cell [] nofun (List.all_eq_true.mp bare) (by simpa using fits)
    rwa [List.nil_append, List.append_nil] at alone
  have padding : ∀ char ∈ (" " : Text) ++ "\t", char = ' ' ∨ char = '\t' :=
    List.forall_mem_cons.mpr ⟨.inl rfl, List.forall_mem_singleton.mpr (.inr rfl)⟩
  have padded : CellWritten "name" " name\t" :=
    @CellWritten.bare " " "name" "\t" padding (List.all_eq_true.mp (by decide)) (by decide)
  have header : List.Forall₂ CellWritten ["name", "note"] [" name\t", "\"note\""] :=
    .cons padded (.cons (@CellWritten.quoted "note" (by decide)) .nil)
  have first : List.Forall₂ CellWritten ["Ann", "a \"b\",\r\nc"] ["Ann", "\"a \"\"b\"\",\r\nc\""] :=
    .cons (plain "Ann" (by decide) (by decide))
      (.cons (@CellWritten.quoted "a \"b\",\r\nc" (by decide)) .nil)
  have second : List.Forall₂ CellWritten ["", "x"] ["", "x"] :=
    .cons (plain "" (by decide) (by decide)) (.cons (plain "x" (by decide) (by decide)) .nil)
  have blank : ∀ field ∈ [("" : Text), " ", ""], BlankField field := by decide +kernel
  have written : TableWritten noteRows noteText :=
    .row header .returnAndFeed (.blank blank .feed (.blank (List.forall_mem_nil _) .feed
      (.row first .feed (.row second .returnAndFeed .nil))))
  have kept : ∀ row ∈ noteRows, Kept row := by decide +kernel
  obtain ⟨marked, unmarked⟩ := written_table_read noteRows noteText written kept
  have head : noteText.head? ≠ some '\ufeff' := by decide
  exact ⟨written, kept, head, marked, unmarked head⟩

end RichText.Csv
