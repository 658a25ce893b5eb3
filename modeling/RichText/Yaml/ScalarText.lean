import RichText.Text.Reference
import RichText.Yaml.Fault
import RichText.Yaml.Position

/-!
The text of scalars in their five styles: plain, in single or double quotes, and as literal or folded
blocks. Each reader tells how many characters the scalar takes. Where a scalar goes over several
lines, a single line break becomes a space and of several the first is dropped.
-/

namespace RichText.Yaml

/-- What line breaks become: the first of them, and the ones of blank lines after it. -/
def folded (first : Char) (later : Text) : Text :=
  if first ≠ '\n' then first :: later
  else if later.isEmpty then [' ']
  else later

/-! Plain scalars -/

/-- Whether a colon before this text ends a plain scalar. -/
def endsPlainKey (inFlow : Bool) (rest : Text) : Bool :=
  endsWord rest || (inFlow && rest.head?.any fun char => char ∈ (",[]\x7b\x7d" : Text))

/-- The characters of a plain scalar up to the next blank. -/
def plainWord (inFlow : Bool) : Text → Text
  | [] => []
  | char :: rest =>
      if isBlank char || isBreak char || (inFlow && char ∈ (",?[]\x7b\x7d" : Text)) ||
          (char = ':' && endsPlainKey inFlow rest) then []
      else char :: plainWord inFlow rest

theorem plainWord_length_le (inFlow : Bool) (text : Text) :
    (plainWord inFlow text).length ≤ text.length := by
  induction text with
  | nil => simp [plainWord]
  | cons char rest induction =>
      unfold plainWord
      split
      · simp
      · simpa using induction

/-- Spaces and line breaks after a line break: the breaks, the size, and the column that is reached, or
none before a document mark. -/
def lineGap (column : Nat) : Text → Text × Nat × Option Nat
  | [] => ([], 0, some column)
  | char :: rest =>
      if column = 0 && isDocumentMark (char :: rest) then ([], 0, none)
      else if char = ' ' then
        let (breaks, size, reached) := lineGap (column + 1) rest
        (breaks, size + 1, reached)
      else if isBreak char then
        let (breaks, size, reached) := lineGap 0 rest
        (normalBreak char :: breaks, size + 1, reached)
      else ([], 0, some column)

structure PlainText where
  text : Text
  size : Nat
  /-- Whether a line break is the last thing that was read. -/
  broken : Bool

/-- What separates two words of a plain scalar. -/
structure PlainGap where
  text : Text
  size : Nat
  broken : Bool
  /-- Whether the scalar ends here in any case. -/
  ends : Bool

def plainGap (inFlow : Bool) (indent : Nat) (text : Text) : PlainGap :=
  let spaces := text.takeWhile (· = ' ')
  let rest := text.drop spaces.length
  match rest with
  | [] => ⟨spaces, spaces.length, false, true⟩
  | char :: after =>
      if isBreak char then
        let (later, size, reached) := lineGap 0 after
        let ends :=
          match reached with
          | none => true
          | some column => (after.drop size).head? = some '#' || (!inFlow && column < indent)
        ⟨folded (normalBreak char) later, spaces.length + 1 + size, true, ends⟩
      else ⟨spaces, spaces.length, false, spaces.isEmpty || char = '#'⟩

/-- The words of a plain scalar whose lines have at least some indentation. -/
def plainText (inFlow : Bool) (indent : Nat) (text : Text) : PlainText :=
  match _word : plainWord inFlow text with
  | [] => ⟨[], 0, false⟩
  | first :: others =>
      let word := first :: others
      let gap := plainGap inFlow indent (text.drop word.length)
      let more : PlainText :=
        if gap.ends then ⟨[], 0, false⟩
        else plainText inFlow indent (text.drop (word.length + gap.size))
      if more.text.isEmpty then ⟨word, word.length + gap.size, gap.broken⟩
      else ⟨word ++ gap.text ++ more.text, word.length + gap.size + more.size, more.broken⟩
termination_by text.length
decreasing_by
  have bound := plainWord_length_le inFlow text
  simp_all [List.length_drop]
  omega

/-! Quoted scalars -/

/-- Blanks and line breaks after a line break: the breaks and the size. -/
def quotedGap (lineStart : Bool) : Text → Except Fault (Text × Nat)
  | [] => .ok ([], 0)
  | char :: rest =>
      if lineStart && isDocumentMark (char :: rest) then .error .documentMarkInQuotes
      else if isBlank char then
        (quotedGap false rest).map fun (breaks, size) => (breaks, size + 1)
      else if isBreak char then
        (quotedGap true rest).map fun (breaks, size) => (normalBreak char :: breaks, size + 1)
      else .ok ([], 0)

/-- Characters that one character after a backslash stands for. -/
def simpleEscapes : List (Char × Char) := [
  ('0', '\x00'), ('a', '\x07'), ('b', '\x08'), ('t', '\t'), ('\t', '\t'), ('n', '\n'),
  ('v', '\x0b'), ('f', '\x0c'), ('r', '\r'), ('e', '\x1b'), (' ', ' '), ('"', '"'), ('\\', '\\'),
  ('/', '/'), ('N', '\u0085'), ('_', '\u00a0'), ('L', '\u2028'), ('P', '\u2029')]

/-- The number of hexadecimal digits after an escape letter. -/
def escapeDigits : List (Char × Nat) := [('x', 2), ('u', 4), ('U', 8)]

def codeEscape (digits : Text) (size : Nat) : Except Fault Char :=
  let code := Text.Reference.valueOf 16 digits
  if digits.length ≠ size || !digits.all Text.Reference.isHexDigit then .error .invalidEscape
  else if code > 0x10ffff then .error (.scalar .codePoint)
  else if 0xd800 ≤ code && code < 0xe000 then .ok '\ufffd'
  else .ok (Char.ofNat code)

/-- The code point whose two halves are written in two escapes, after the letter of the first. -/
def halvesEscape? : Text → Option Char
  | a :: b :: c :: d :: '\\' :: 'u' :: e :: f :: g :: h :: _ =>
      let high := Text.Reference.valueOf 16 [a, b, c, d]
      let low := Text.Reference.valueOf 16 [e, f, g, h]
      let areHalves := 0xd800 ≤ high && high < 0xdc00 && 0xdc00 ≤ low && low < 0xe000
      if areHalves && [a, b, c, d, e, f, g, h].all Text.Reference.isHexDigit then
        some (Char.ofNat (0x10000 + (high - 0xd800) * 0x400 + (low - 0xdc00)))
      else none
  | _ => none

/-- What an escape sequence stands for, after its backslash, and its size. An escaped line break
stands for nothing. -/
def escape : Text → Except Fault (Text × Nat)
  | [] => .error .invalidEscape
  | char :: rest =>
      match simpleEscapes.lookup char, escapeDigits.lookup char with
      | some other, _ => .ok ([other], 1)
      | none, some size =>
          match if char = 'u' then halvesEscape? rest else none with
          | some other => .ok ([other], 11)
          | none => (codeEscape (rest.take size) size).map fun other => ([other], size + 1)
      | none, none =>
          if isBreak char then
            (quotedGap true rest).map fun (breaks, size) => (breaks, size + 1)
          else .error .invalidEscape

/-- Blanks inside quotes: what they stand for and their size. -/
def quotedBlanks (text : Text) : Except Fault (Text × Nat) :=
  let blanks := text.takeWhile isBlank
  match text.drop blanks.length with
  | [] => .error .unclosedQuote
  | char :: rest =>
      if isBreak char then
        (quotedGap true rest).map fun (later, size) =>
          (folded (normalBreak char) later, blanks.length + 1 + size)
      else .ok (blanks, blanks.length)

/-- One more part in front of what was read. -/
def grown (part : Text) (read : Except Fault (Text × Nat)) : Except Fault (Text × Nat) :=
  read.map fun (text, size) => (part ++ text, size + 1)

/-- The text up to the closing quote, and the size with that quote, after passing over a number of
characters. -/
def quotedFrom (quote : Char) : Nat → Text → Except Fault (Text × Nat)
  | _, [] => .error .unclosedQuote
  | skipped + 1, _ :: rest => grown [] (quotedFrom quote skipped rest)
  | 0, char :: rest =>
      if char = quote then
        if quote = '\x27' && rest.head? = some '\x27' then
          grown ['\x27'] (quotedFrom quote 1 rest)
        else .ok ([], 1)
      else if quote = '"' && char = '\\' then
        match escape rest with
        | .error fault => .error fault
        | .ok (text, size) => grown text (quotedFrom quote size rest)
      else if isBlank char || isBreak char then
        match quotedBlanks (char :: rest) with
        | .error fault => .error fault
        | .ok (text, size) => grown text (quotedFrom quote (size - 1) rest)
      else grown [char] (quotedFrom quote 0 rest)

/-- The text of a quoted scalar after its opening quote. -/
def quotedText (quote : Char) (text : Text) : Except Fault (Text × Nat) := quotedFrom quote 0 text

/-! Block scalars -/

/-- What the last line breaks of a block become. -/
inductive Chomping
  | strip
  | clip
  | keep
  deriving DecidableEq, Repr

structure BlockHeader where
  chomping : Chomping
  /-- The indentation of the block over that of what it stands in, if it is given. -/
  increment : Option Nat
  /-- The size of the header with the rest of its line. -/
  size : Nat

def chompingOf? (char : Char) : Option Chomping :=
  if char = '+' then some .keep else if char = '-' then some .strip else none

def incrementOf? (char : Char) : Option Nat :=
  if Text.isAsciiDigit char then some (char.toNat - 48) else none

/-- The indicators of a block in either order, and how many there are. -/
def blockIndicators (text : Text) : Chomping × Option Nat × Nat :=
  match text with
  | [] => (.clip, none, 0)
  | first :: rest =>
      match chompingOf? first, incrementOf? first with
      | some chomping, _ =>
          match rest.head?.bind incrementOf? with
          | some increment => (chomping, some increment, 2)
          | none => (chomping, none, 1)
      | none, some increment =>
          match rest.head?.bind chompingOf? with
          | some chomping => (chomping, some increment, 2)
          | none => (.clip, some increment, 1)
      | none, none => (.clip, none, 0)

def blockHeader (text : Text) : Except Fault BlockHeader :=
  let (chomping, increment, size) := blockIndicators text
  let rest := text.drop size
  let spaces := (rest.takeWhile (· = ' ')).length
  let comment : Text :=
    match rest.drop spaces with
    | '#' :: others => '#' :: others.takeWhile fun char => !isBreak char
    | _ => []
  let line := rest.drop (spaces + comment.length)
  if increment = some 0 || !endsPart rest || !endsLine line then .error .invalidBlockHeader
  else .ok ⟨chomping, increment, size + spaces + comment.length + (line.take 1).length⟩

/-- Spaces up to an indentation, and line breaks: the breaks, the size, and the column. -/
def blockBreaks (indent column : Nat) : Text → Text × Nat × Nat
  | [] => ([], 0, column)
  | char :: rest =>
      if char = ' ' && column < indent then
        let (breaks, size, reached) := blockBreaks indent (column + 1) rest
        (breaks, size + 1, reached)
      else if isBreak char then
        let (breaks, size, reached) := blockBreaks indent 0 rest
        (normalBreak char :: breaks, size + 1, reached)
      else ([], 0, column)

/-- Spaces and line breaks before the first line of a block: the breaks, the size, the column, and the
furthest column. -/
def blockStart (column furthest : Nat) : Text → Text × Nat × Nat × Nat
  | [] => ([], 0, column, furthest)
  | char :: rest =>
      if char = ' ' then
        let (breaks, size, reached) :=
          blockStart (column + 1) (max furthest (column + 1)) rest
        (breaks, size + 1, reached)
      else if isBreak char then
        let (breaks, size, reached) := blockStart 0 furthest rest
        (normalBreak char :: breaks, size + 1, reached)
      else ([], 0, column, furthest)

/-- What stands between two lines of a block with no blank lines between them, or the first of the
breaks otherwise. Folding leaves breaks next to indented lines alone. -/
def blockJoin (isFolded : Bool) (line : Text) (lineBreak : Char) (breaks next : Text) : Text :=
  let isBlankStart (text : Text) : Bool := text.head?.any isBlank
  if isFolded && lineBreak = '\n' && !isBlankStart line && !isBlankStart next then
    if breaks.isEmpty then [' '] else []
  else [lineBreak]

/-- The end of a block: its last line break, and the breaks after that. -/
def blockEnd (chomping : Chomping) (lineBreak breaks : Text) : Text :=
  match chomping with
  | .strip => []
  | .clip => lineBreak
  | .keep => lineBreak ++ breaks

/-- The lines of a block from its first one on, and their size. -/
def blockLines (isFolded : Bool) (chomping : Chomping) (indent : Nat) (text : Text) :
    Text × Nat :=
  match text with
  | [] => (blockEnd chomping [] [], 0)
  | first :: others =>
      let line := first :: others.takeWhile fun char => !isBreak char
      match _after : others.dropWhile fun char => !isBreak char with
      | [] => (line ++ blockEnd chomping [] [], line.length)
      | lineBreak :: rest =>
          let (breaks, size, column) := blockBreaks indent 0 rest
          let next := rest.drop size
          let taken := line.length + 1 + size
          let lineBreak := normalBreak lineBreak
          if column = indent && !next.isEmpty then
            let (more, moreSize) := blockLines isFolded chomping indent next
            (line ++ blockJoin isFolded line lineBreak breaks next ++ breaks ++ more,
              taken + moreSize)
          else (line ++ blockEnd chomping [lineBreak] breaks, taken)
termination_by text.length
decreasing_by
  have bound := (List.dropWhile_sublist (l := others) fun char => !isBreak char).length_le
  simp_all [List.length_drop]
  omega

/-- The text of a block scalar after its sign, and its size. The indentation is that of the first line
unless the header gives it, and more than that of what the block stands in. -/
def blockText (isFolded : Bool) (least : Nat) (text : Text) : Except Fault (Text × Nat) :=
  match blockHeader text with
  | .error fault => .error fault
  | .ok header =>
      let body := text.drop header.size
      let (indent, breaks, size, column) :=
        match header.increment with
        | some increment =>
            let indent := least + increment - 1
            let (breaks, size, column) := blockBreaks indent 0 body
            (indent, breaks, size, column)
        | none =>
            let (breaks, size, column, furthest) := blockStart 0 0 body
            (max least furthest, breaks, size, column)
      let rest := body.drop size
      if column = indent && !rest.isEmpty then
        let (lines, linesSize) := blockLines isFolded header.chomping indent rest
        .ok (breaks ++ lines, header.size + size + linesSize)
      else .ok (blockEnd header.chomping [] breaks, header.size + size)

end RichText.Yaml
