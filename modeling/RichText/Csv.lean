import RichText.Text.Blank

/-!
Tables as comma-separated text. A cell is bare or stands between double quotes; inside quotes a quote
is written twice, and commas and line ends are part of the cell. A line ends with a line feed, and
carriage returns before it belong to the line end.
-/

namespace RichText.Csv

/-- The most characters that a cell may hold. -/
def cellLimit : Nat := 131072

inductive Fault
  | cellTooLong
  /-- A carriage return outside quotes is followed by more text on the line. -/
  | textAfterLineEnd
  deriving DecidableEq, Repr

/-- Where in a line the reader is. -/
inductive Place
  | lineStart
  | cellStart
  | bare
  | quoted
  /-- A quote was read inside a quoted cell: it ends the cell or begins a doubled quote. -/
  | quoteSeen
  | lineEnd
  deriving DecidableEq, Repr

/-- The line so far. Cells and characters are kept last first. -/
structure Line where
  place : Place
  cells : List Text
  cell : Text
  size : Nat

namespace Line

def empty : Line := ⟨.lineStart, [], [], 0⟩

def close (line : Line) (place : Place) : Line := ⟨place, line.cell.reverse :: line.cells, [], 0⟩

def add (line : Line) (place : Place) (char : Char) : Except Fault Line :=
  if line.size ≥ cellLimit then .error .cellTooLong
  else .ok ⟨place, line.cells, char :: line.cell, line.size + 1⟩

def begin (line : Line) (char : Char) : Except Fault Line :=
  if char = '\n' || char = '\r' then .ok (line.close .lineEnd)
  else if char = '"' then .ok { line with place := .quoted }
  else if char = ',' then .ok (line.close .cellStart)
  else line.add .bare char

def step (line : Line) (char : Char) : Except Fault Line :=
  match line.place with
  | .lineStart =>
      if char = '\n' || char = '\r' then .ok { line with place := .lineEnd } else line.begin char
  | .cellStart => line.begin char
  | .bare =>
      if char = '\n' || char = '\r' then .ok (line.close .lineEnd)
      else if char = ',' then .ok (line.close .cellStart)
      else line.add .bare char
  | .quoted => if char = '"' then .ok { line with place := .quoteSeen } else line.add .quoted char
  | .quoteSeen =>
      if char = '"' then line.add .quoted char
      else if char = ',' then .ok (line.close .cellStart)
      else if char = '\n' || char = '\r' then .ok (line.close .lineEnd)
      else line.add .bare char
  | .lineEnd =>
      if char = '\n' || char = '\r' then .ok line else .error .textAfterLineEnd

def row (line : Line) : List Text := line.cells.reverse

/-- The rows that the end of the text completes. -/
def finish (line : Line) : List (List Text) :=
  match line.place with
  | .lineStart => []
  | .lineEnd => [line.row]
  | .cellStart => [(line.close .lineEnd).row]
  | .bare => [(line.close .lineEnd).row]
  | .quoted => [(line.close .lineEnd).row]
  | .quoteSeen => [(line.close .lineEnd).row]

end Line

def rowsFrom (line : Line) : Text → Except Fault (List (List Text))
  | [] => .ok line.finish
  | char :: rest =>
      match line.step char with
      | .error fault => .error fault
      | .ok next =>
          if char = '\n' && next.place = .lineEnd then
            (rowsFrom .empty rest).map (next.row :: ·)
          else rowsFrom next rest

/-- Every line as its cells, as written. -/
def rows (text : Text) : Except Fault (List (List Text)) := rowsFrom .empty text

def dropByteOrderMark : Text → Text
  | '\ufeff' :: rest => rest
  | text => text

/-- Rows of trimmed cells. A leading byte order mark is dropped, and so are rows of blank cells. -/
def parse (text : Text) : Except Fault (List (List Text)) :=
  (rows (dropByteOrderMark text)).map fun lines =>
    (lines.map fun line => line.map Text.trim).filter fun line =>
      line.any fun cell => !cell.isEmpty

end RichText.Csv
