import RichText.Markdown.Link
import RichText.Markdown.RawMarkup
import RichText.Text.Lines

/-!
The block structure of Markdown. Lines are taken one by one: each continues some of the blocks that
are open, may open others, and leaves text behind. A line that continues none of them may still
belong to the last paragraph. The text of blocks is not read here, since link definitions further
down can change what it means.
-/

namespace RichText.Markdown

/-- Blocks with unread text. -/
inductive Outline
  | paragraph (text : Text)
  | heading (level : Nat) (text : Text)
  | code (raw : Text)
  | list (ordered : Bool) (items : List (List Outline))
  | quote (content : List Outline)
  | rule
  | markup

def isLineBlank (text : Text) : Bool := text.all Link.isLineSpace

/-- What is left of a line. Tabulators reach to the next multiple of four columns, and one of which
only a part was taken leaves spaces before the rest. -/
structure Cursor where
  /-- The column at which the rest starts. -/
  column : Nat
  spaces : Nat
  rest : Text

namespace Cursor

def tabWidth (column : Nat) : Nat := 4 - column % 4

def indentFrom (column : Nat) : Text → Nat
  | ' ' :: rest => 1 + indentFrom (column + 1) rest
  | '\t' :: rest => tabWidth column + indentFrom (column + tabWidth column) rest
  | _ => 0

/-- How many columns of spaces come next. -/
def indent (cursor : Cursor) : Nat := cursor.spaces + indentFrom cursor.column cursor.rest

def isBlank (cursor : Cursor) : Bool := isLineBlank cursor.rest

def text (cursor : Cursor) : Text := List.replicate cursor.spaces ' ' ++ cursor.rest

def skipFrom (column : Nat) : Nat → Text → Cursor
  | 0, rest => ⟨column, 0, rest⟩
  | columns + 1, ' ' :: rest => skipFrom (column + 1) columns rest
  | columns + 1, '\t' :: rest =>
      let width := tabWidth column
      if width ≤ columns + 1 then skipFrom (column + width) (columns + 1 - width) rest
      else ⟨column + width, width - (columns + 1), rest⟩
  | _, rest => ⟨column, 0, rest⟩

/-- Skips columns of spaces, as far as there are any. -/
def skip (columns : Nat) (cursor : Cursor) : Cursor :=
  if columns ≤ cursor.spaces then { cursor with spaces := cursor.spaces - columns }
  else skipFrom cursor.column (columns - cursor.spaces) cursor.rest

def skipIndent (cursor : Cursor) : Cursor := cursor.skip cursor.indent

/-- Skips characters other than spaces. -/
def drop (size : Nat) (cursor : Cursor) : Cursor :=
  ⟨cursor.column + size, 0, cursor.rest.drop size⟩

end Cursor

/-- What the items of one list have in common. -/
structure ListMark where
  ordered : Bool
  /-- The bullet, or the sign after the number. -/
  sign : Char
  deriving DecidableEq, Repr

/-- A block that holds blocks and is still open. Blocks inside come last first. -/
inductive Frame
  | quote (done : List Outline)
  /-- A list with an open item, whose lines are indented by an offset. -/
  | list (mark : ListMark) (items : List (List Outline)) (offset : Nat) (item : List Outline)
  /-- A list whose items are all closed. -/
  | between (mark : ListMark) (items : List (List Outline))

/-- A block of lines that is still open. Lines come last first. -/
inductive Leaf
  | paragraph (lines : List Text)
  | indented (lines : List Text)
  | fenced (sign : Char) (size indent : Nat) (lines : List Text)
  | markup (ending : RawMarkup.Ending)

/-- What the lines so far amount to. Finished blocks come last first, and frames innermost first. -/
structure Draft where
  done : List Outline := []
  frames : List Frame := []
  leaf : Option Leaf := none
  definitions : Link.Definitions := []

def linesText (lines : List Text) : Text := Text.join "\n" lines.reverse

namespace Draft

/-- Puts blocks, last first, where the next block belongs. A list between items ends there. -/
def putIn (blocks done : List Outline) : List Frame → List Outline × List Frame
  | [] => (blocks ++ done, [])
  | .quote inside :: outer => (done, .quote (blocks ++ inside) :: outer)
  | .list mark items offset item :: outer =>
      (done, .list mark items offset (blocks ++ item) :: outer)
  | .between mark items :: outer =>
      putIn (blocks ++ [.list mark.ordered items.reverse]) done outer

def put (draft : Draft) (block : Outline) : Draft :=
  let (done, frames) := putIn [block] draft.done draft.frames
  { draft with done, frames }

def closeFrame (draft : Draft) : Draft :=
  match draft.frames with
  | [] => draft
  | .quote inside :: outer => { draft with frames := outer }.put (.quote inside.reverse)
  | .list mark items _ item :: outer =>
      { draft with frames := outer }.put
        (.list mark.ordered (item.reverse :: items).reverse)
  | .between mark items :: outer =>
      { draft with frames := outer }.put (.list mark.ordered items.reverse)

def closeFrames : Nat → Draft → Draft
  | 0, draft => draft
  | count + 1, draft => closeFrames count draft.closeFrame

/-- A paragraph without the definitions at its start. -/
def putParagraph (draft : Draft) (text : Text) (block : Text → Outline) : Draft :=
  let (definitions, rest) := Link.takeDefinitions text
  let draft := { draft with definitions := draft.definitions ++ definitions }
  if rest.all fun char => Link.isLineSpace char || char = '\n' then draft else draft.put (block rest)

def closeLeaf (draft : Draft) : Draft :=
  let closed := { draft with leaf := none }
  match draft.leaf with
  | none => draft
  | some (.paragraph lines) => closed.putParagraph (linesText lines) .paragraph
  | some (.indented lines) => closed.put (.code (linesText (lines.dropWhile isLineBlank)))
  | some (.fenced _ _ _ lines) => closed.put (.code (linesText lines))
  | some (.markup _) => closed.put .markup

def endItem (draft : Draft) : Draft :=
  match draft.frames with
  | .list mark items _ item :: outer =>
      { draft with frames := .between mark (item.reverse :: items) :: outer }
  | _ => draft

/-- Closes the innermost frame if it is a list between items. -/
def settle (draft : Draft) : Draft :=
  match draft.frames with
  | .between .. :: _ => draft.closeFrame
  | _ => draft

/-- Closes everything. -/
def finish (draft : Draft) : List Outline × Link.Definitions :=
  let draft := draft.closeLeaf
  let draft := closeFrames draft.frames.length draft
  (draft.done.reverse, draft.definitions)

end Draft

/-- The cursor behind the start of a quoted line. -/
def quoteStart? (cursor : Cursor) : Option Cursor :=
  let start := cursor.skipIndent
  match start.rest with
  | '>' :: _ => if cursor.indent < 4 then some ((start.drop 1).skip 1) else none
  | _ => none

/-- The cursor inside a frame that a line continues. An item without content ends at a blank line. -/
def Frame.enter (isEmpty : Bool) (cursor : Cursor) : Frame → Option Cursor
  | .quote _ => quoteStart? cursor
  | .list _ _ offset item =>
      if cursor.isBlank then
        if isEmpty && item.isEmpty then none else some cursor.skipIndent
      else if cursor.indent ≥ offset then some (cursor.skip offset)
      else none
  | .between .. => some cursor

/-- How much of the frames a line continues. -/
structure Continued where
  depth : Nat
  /-- The innermost of them is a list whose item ends. -/
  itemEnds : Bool
  cursor : Cursor

/-- Walks into frames, the outermost first. -/
def walk (withoutLeaf : Bool) (cursor : Cursor) : List Frame → Continued
  | [] => ⟨0, false, cursor⟩
  | frame :: inner =>
      match frame.enter (withoutLeaf && inner.isEmpty) cursor with
      | some cursor =>
          let inside := walk withoutLeaf cursor inner
          { inside with depth := inside.depth + 1 }
      | none =>
          match frame with
          | .list .. => ⟨1, true, cursor⟩
          | _ => ⟨0, false, cursor⟩

/-- Whether a line consists of three or more of the same sign. -/
def isRule (text : Text) : Bool :=
  let signs := text.filter fun char => !Link.isLineSpace char
  match signs with
  | sign :: _ => sign ∈ ("*-_" : Text) && signs.length ≥ 3 && signs.all (· = sign)
  | [] => false

/-- The text of a heading without the number signs that close it. -/
def headingText (text : Text) : Text :=
  let text := Text.dropEndWhile Link.isLineSpace (Link.skipSpaces text)
  let body := Text.dropEndWhile (· = '#') text
  if body.getLast?.all Link.isLineSpace then body else text

def heading? (text : Text) : Option Outline :=
  let level := (text.takeWhile (· = '#')).length
  let rest := text.drop level
  if 1 ≤ level && level ≤ 6 && rest.head?.all Link.isLineSpace then
    some (.heading level (headingText rest))
  else none

/-- The level of a heading that a line under a paragraph makes. -/
def underlineLevel? (text : Text) : Option Nat :=
  let signs := Text.dropEndWhile Link.isLineSpace text
  if signs.isEmpty then none
  else if signs.all (· = '=') then some 1
  else if signs.all (· = '-') then some 2
  else none

def isFenceSign (char : Char) : Bool := char = '\x60' || char = '~'

def fence? (indent : Nat) (text : Text) : Option Leaf :=
  match text with
  | [] => none
  | sign :: _ =>
      let size := (text.takeWhile (· = sign)).length
      if isFenceSign sign && size ≥ 3 &&
          !(sign = '\x60' && (text.drop size).any (· = '\x60')) then
        some (.fenced sign size indent [])
      else none

def closesFence (sign : Char) (size : Nat) (text : Text) : Bool :=
  size ≤ (text.takeWhile (· = sign)).length && isLineBlank (text.dropWhile (· = sign))

/-- The sign and the size of the mark of a list item. An item can interrupt a paragraph only if it is
numbered one or has a bullet. -/
def itemMark? (inParagraph : Bool) (text : Text) : Option (ListMark × Nat) :=
  match text with
  | [] => none
  | char :: _ =>
      if char ∈ ("*+-" : Text) then some (⟨false, char⟩, 1)
      else
        let digits := text.takeWhile Text.isAsciiDigit
        let number := Text.Reference.valueOf 10 digits
        match text.drop digits.length with
        | sign :: _ =>
            if (sign = '.' || sign = ')') && 1 ≤ digits.length && digits.length ≤ 9 &&
                (!inParagraph || number = 1) then
              some (⟨true, sign⟩, digits.length + 1)
            else none
        | [] => none

/-- What a line may begin. -/
inductive Start
  | quote (cursor : Cursor)
  | item (mark : ListMark) (offset : Nat) (cursor : Cursor)
  | block (block : Outline)
  | leaf (leaf : Leaf)

def itemStart? (inParagraph : Bool) (cursor : Cursor) : Option Start := do
  let start := cursor.skipIndent
  let (mark, size) ← itemMark? inParagraph start.rest
  let after := start.drop size
  let isBlank := after.isBlank
  if !after.rest.head?.all Link.isLineSpace || (inParagraph && isBlank) then none
  else
    let spaces := if isBlank || after.indent ≥ 5 then 1 else after.indent
    some (.item mark (cursor.indent + size + spaces) (after.skip spaces))

def markupStart? (openParagraph : Bool) (text : Text) : Option Start :=
  match text with
  | '<' :: rest =>
      (RawMarkup.blockEnding? openParagraph rest).map fun ending =>
        if ending.isAt text then .block .markup else .leaf (.markup ending)
  | _ => none

/-- What a line begins, if it is not simply text. -/
def start? (inParagraph openParagraph : Bool) (cursor : Cursor) : Option Start :=
  let indent := cursor.indent
  let text := cursor.skipIndent.rest
  if indent ≥ 4 then
    if openParagraph || cursor.isBlank then none
    else some (.leaf (.indented [(cursor.skip 4).text]))
  else
    (quoteStart? cursor).map .quote
      <|> (heading? text).map .block
      <|> (fence? indent text).map .leaf
      <|> markupStart? openParagraph text
      <|> (if isRule text then some (.block .rule) else none)
      <|> itemStart? inParagraph cursor

namespace Draft

/-- Opens an item, in the innermost list if that has the same mark. -/
def openItem (draft : Draft) (mark : ListMark) (offset : Nat) : Draft :=
  let fresh (draft : Draft) : Draft :=
    { draft with frames := .list mark [] offset [] :: draft.frames }
  match draft.frames with
  | .between other items :: outer =>
      if other = mark then { draft with frames := .list mark items offset [] :: outer }
      else fresh draft.settle
  | _ => fresh draft

def openLeaf (draft : Draft) (leaf : Leaf) : Draft := { draft.settle with leaf := some leaf }

/-- Takes the rest of a line in a place where no paragraph is open. -/
def takeRest (draft : Draft) (cursor : Cursor) : Draft :=
  match start? false false cursor with
  | some (.quote next) =>
      if next.rest.length < cursor.rest.length then
        { draft.settle with frames := .quote [] :: draft.settle.frames }.takeRest next
      else draft
  | some (.item mark offset next) =>
      if next.rest.length < cursor.rest.length then (draft.openItem mark offset).takeRest next
      else draft
  | some (.block block) => draft.put block
  | some (.leaf leaf) => draft.openLeaf leaf
  | none =>
      if cursor.isBlank then draft else draft.openLeaf (.paragraph [cursor.skipIndent.rest])
termination_by cursor.rest.length

/-- Takes the rest of a line while a paragraph is open. The closed draft is what the line leaves if it
begins something. -/
def takeAtParagraph (draft closed : Draft) (lines : List Text) (inParagraph : Bool)
    (cursor : Cursor) : Draft :=
  let text := cursor.skipIndent.rest
  match start? inParagraph true cursor with
  | some (.quote _) => closed.takeRest cursor
  | some (.item ..) => closed.takeRest cursor
  | some (.block block) => closed.put block
  | some (.leaf leaf) => closed.openLeaf leaf
  | none => { draft with leaf := some (.paragraph (text :: lines)) }

/-- The heading that a line makes of the paragraph above it. -/
def underline? (draft : Draft) (lines : List Text) (cursor : Cursor) : Option Draft := do
  let level ← if cursor.indent < 4 then underlineLevel? cursor.skipIndent.rest else none
  let text := linesText lines
  if (Link.takeDefinitions text).2.all fun char => Link.isLineSpace char || char = '\n' then none
  else some ({ draft with leaf := none }.putParagraph text (.heading level))

/-- Closes what a line does not continue. -/
def closeTo (draft : Draft) (continued : Continued) : Draft :=
  let draft := draft.closeLeaf
  let draft := closeFrames (draft.frames.length - continued.depth) draft
  if continued.itemEnds then draft.endItem else draft

/-- Takes a line in the innermost frames, all of which it continues. -/
def takeInside (draft closed : Draft) (cursor : Cursor) : Draft :=
  match draft.leaf with
  | none => draft.takeRest cursor
  | some (.fenced sign size indent lines) =>
      if cursor.indent < 4 && closesFence sign size cursor.skipIndent.rest then closed
      else { draft with leaf := some (.fenced sign size indent ((cursor.skip indent).text :: lines)) }
  | some (.markup ending) =>
      match ending with
      | .blankLine => if cursor.isBlank then closed else draft
      | ending => if ending.isAt cursor.rest then closed else draft
  | some (.indented lines) =>
      if cursor.indent ≥ 4 || cursor.isBlank then
        { draft with leaf := some (.indented ((cursor.skip 4).text :: lines)) }
      else closed.takeRest cursor
  | some (.paragraph lines) =>
      if cursor.isBlank then closed
      else
        (draft.underline? lines cursor).getD (draft.takeAtParagraph closed lines true cursor)

def takeLine (draft : Draft) (line : Text) : Draft :=
  let continued := walk draft.leaf.isNone ⟨0, 0, line⟩ draft.frames.reverse
  let closed := draft.closeTo continued
  if continued.depth = draft.frames.length && !continued.itemEnds then
    draft.takeInside closed continued.cursor
  else
    match draft.leaf with
    | some (.paragraph lines) =>
        if continued.cursor.isBlank then closed
        else draft.takeAtParagraph closed lines false continued.cursor
    | _ => closed.takeRest continued.cursor

end Draft

/-- The blocks of a text, and the definitions that were among them. -/
def outline (text : Text) : List Outline × Link.Definitions :=
  ((Text.lines text).foldl Draft.takeLine {}).finish

end RichText.Markdown
