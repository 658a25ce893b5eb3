import RichText.Markdown.Emphasis
import RichText.Markdown.Link
import RichText.Markdown.RawMarkup

/-!
The text of a block as inline tokens. Code, raw markup and links between angle brackets are read as
they come; an opening bracket is kept until its partner shows whether the two make a link. Emphasis is
matched last, separately inside every link.
-/

namespace RichText.Markdown

/-- A bracket that is still open. -/
structure Bracket where
  image : Bool
  /-- Whether it may still begin a link; links do not contain links. -/
  active : Bool := true
  /-- Whether another bracket was opened after it. -/
  nested : Bool := false
  /-- The source that follows it. -/
  source : Text
  /-- The pieces before it, last first. -/
  before : List Piece

/-- What has been read: the pieces since the innermost open bracket, last first, and the brackets. -/
structure Reading where
  pieces : List Piece := []
  brackets : List Bracket := []

namespace Reading

def add (reading : Reading) (token : Inline) : Reading :=
  { reading with pieces := .token token :: reading.pieces }

def addText (reading : Reading) (text : Text) : Reading := reading.add (.text text)

def bracketText (bracket : Bracket) : Piece :=
  .token (.text (if bracket.image then "![" else "["))

def openBracket (reading : Reading) (image : Bool) (source : Text) : Reading :=
  let brackets :=
    match reading.brackets with
    | [] => []
    | outer :: others => { outer with nested := true } :: others
  { pieces := [], brackets := { image, source, before := reading.pieces } :: brackets }

/-- Takes the innermost bracket as text. -/
def dropBracket (reading : Reading) : Reading :=
  match reading.brackets with
  | [] => reading
  | bracket :: others =>
      { pieces := reading.pieces ++ bracketText bracket :: bracket.before, brackets := others }

/-- All pieces, the open brackets taken as text. -/
def allPieces (pieces : List Piece) : List Bracket → List Piece
  | [] => pieces
  | bracket :: others => allPieces (pieces ++ bracketText bracket :: bracket.before) others

def inlines (reading : Reading) : List Inline :=
  emphasized (allPieces reading.pieces reading.brackets)

end Reading

/-- The URL of a link by reference, and what follows it. A label may follow the closing bracket; if it
is empty or missing, the text in brackets is the label. -/
def referenceTarget? (definitions : Link.Definitions) (bracket : Bracket) (rest : Text) :
    Option (Text × Text) :=
  let own (after : Text) : Option (Text × Text) :=
    if bracket.nested then none
    else
      let label := bracket.source.take (bracket.source.length - rest.length - 1)
      (Link.urlFor? definitions label).map fun url => (url, after)
  let following : Option (Text × Text) :=
    match rest with
    | '[' :: rest => Link.label? rest
    | _ => none
  match following with
  | none => own rest
  | some ([], after) => own after
  | some (label, after) => (Link.urlFor? definitions label).map fun url => (url, after)

def target? (definitions : Link.Definitions) (bracket : Bracket) (rest : Text) :
    Option (Text × Text) :=
  let direct : Option (Text × Text) :=
    match rest with
    | '(' :: rest => Link.tail? rest
    | _ => none
  direct <|> referenceTarget? definitions bracket rest

/-- The reading after a closing bracket, and how many characters that follow it belong to the link. -/
def Reading.closeBracket (definitions : Link.Definitions) (reading : Reading) (rest : Text) :
    Reading × Nat :=
  match reading.brackets with
  | [] => (reading.addText "]", 0)
  | bracket :: others =>
      let found := if bracket.active then target? definitions bracket rest else none
      match found with
      | none => (reading.dropBracket.addText "]", 0)
      | some (url, after) =>
          let size := rest.length - after.length
          if bracket.image then
            ({ pieces := .token (.other "image") :: bracket.before, brackets := others }, size)
          else
            let link : Inline := .link url (emphasized reading.pieces)
            let brackets := others.map fun outer =>
              if outer.image then outer else { outer with active := false }
            ({ pieces := .token link :: bracket.before, brackets }, size)

/-- Code up to a run of as many backticks as opened it, that run included, and what follows it. The
second number counts the backticks just before. -/
def codeBody? (size : Nat) (seen : Nat) : Text → Option (Text × Text)
  | [] => if seen = size then some ([], []) else none
  | char :: rest =>
      if char = '\x60' then
        (codeBody? size (seen + 1) rest).map fun (body, after) => (char :: body, after)
      else if seen = size then some ([], char :: rest)
      else (codeBody? size 0 rest).map fun (body, after) => (char :: body, after)

/-- Code without one space at either end, unless it is blank; line ends are spaces. -/
def codeText (body : Text) : Text :=
  let body := body.map fun char => if char = '\n' then ' ' else char
  if body.head? = some ' ' && body.getLast? = some ' ' && !body.all (· = ' ') then
    body.tail.dropLast
  else body

def isSchemeChar (char : Char) : Bool :=
  Text.isAsciiLetter char || Text.isAsciiDigit char || char ∈ ("+-." : Text)

/-- A URL as it may stand in angle brackets. -/
def isAutolink (body : Text) : Bool :=
  let scheme := body.takeWhile isSchemeChar
  match body.dropWhile isSchemeChar with
  | ':' :: rest =>
      2 ≤ scheme.length && scheme.length ≤ 32 && (scheme.take 1).all Text.isAsciiLetter &&
        rest.all fun char => char ≠ '<' && char.toNat > 0x20
  | _ => false

def isLetterOrDigit (char : Char) : Bool := Text.isAsciiLetter char || Text.isAsciiDigit char

def isMailboxChar (char : Char) : Bool :=
  isLetterOrDigit char || char ∈ (".!#$%&'*+/=?^_\x60\x7b|\x7d~-" : Text)

def isDomainLabel (label : Text) : Bool :=
  !label.isEmpty && label.length ≤ 63 && label.all (fun char => isLetterOrDigit char || char = '-') &&
    label.head? ≠ some '-' && label.getLast? ≠ some '-'

def isMailAddress (body : Text) : Bool :=
  let mailbox := body.takeWhile (· ≠ '@')
  match body.dropWhile (· ≠ '@') with
  | '@' :: domain =>
      !mailbox.isEmpty && mailbox.all isMailboxChar &&
        (Text.pieces (· = '.') domain).all isDomainLabel
  | _ => false

/-- The link between angle brackets, after the first of them, and its size. -/
def autolink? (rest : Text) : Option (Inline × Nat) :=
  let body := rest.takeWhile (· ≠ '>')
  let size := body.length + 1
  if body.length = rest.length then none
  else if isMailAddress body then some (.link (Link.encoded ("mailto:" ++ body)) [.text body], size)
  else if isAutolink body then some (.link (Link.encoded body) [.text body], size)
  else none

def readAngle (reading : Reading) (rest : Text) : Reading × Nat :=
  match autolink? rest with
  | some (link, size) => (reading.add link, size)
  | none =>
      match RawMarkup.afterInline? rest with
      | some after => (reading.add (.other "inline_html"), rest.length - after.length)
      | none => (reading.addText "<", 0)

def readCode (reading : Reading) (rest : Text) : Reading × Nat :=
  let more := (rest.takeWhile (· = '\x60')).length
  match codeBody? (more + 1) 0 (rest.drop more) with
  | some (body, _) =>
      (reading.add (.code (codeText (body.take (body.length - (more + 1))))), more + body.length)
  | none => (reading.addText (List.replicate (more + 1) '\x60'), more)

def readEscape (reading : Reading) (rest : Text) : Reading × Nat :=
  match rest with
  | '\n' :: after => (reading.add .hardBreak, 1 + (after.takeWhile (· = ' ')).length)
  | char :: _ =>
      if Text.isAsciiPunctuation char then (reading.addText [char], 1)
      else (reading.addText "\\", 0)
  | [] => (reading.addText "\\", 0)

/-- Spaces are text, unless the line ends after them. Two of them there make a hard line break. -/
def readSpace (reading : Reading) (rest : Text) : Reading × Nat :=
  let more := (rest.takeWhile (· = ' ')).length
  match rest.drop more with
  | '\n' :: after =>
      (reading.add (if more = 0 then .softBreak else .hardBreak),
        more + 1 + (after.takeWhile (· = ' ')).length)
  | _ => (reading.addText " ", 0)

/-- Reads what a character begins: the reading after it, and how many further characters it takes. -/
def Reading.step (definitions : Link.Definitions) (before : Option Char) (reading : Reading)
    (char : Char) (rest : Text) : Reading × Nat :=
  if char = ' ' then readSpace reading rest
  else if char = '\n' then (reading.add .softBreak, (rest.takeWhile (· = ' ')).length)
  else if char = '\\' then readEscape reading rest
  else if char = '\x60' then readCode reading rest
  else if char = '<' then readAngle reading rest
  else if char = '*' || char = '_' then
    let more := (rest.takeWhile (· = char)).length
    let run := Run.ofContext char (more + 1) before (rest.drop more).head?
    ({ reading with pieces := .run run :: reading.pieces }, more)
  else if char = '[' then (reading.openBracket false rest, 0)
  else if char = ']' then reading.closeBracket definitions rest
  else if char = '!' && rest.head? = some '[' then (reading.openBracket true rest.tail, 1)
  else (reading.addText [char], 0)

/-- Reads on after passing over a number of characters. -/
def readFrom (definitions : Link.Definitions) : Nat → Option Char → Reading → Text → Reading
  | _, _, reading, [] => reading
  | skipped + 1, _, reading, char :: rest => readFrom definitions skipped (some char) reading rest
  | 0, before, reading, char :: rest =>
      let (reading, size) := reading.step definitions before char rest
      readFrom definitions size (some char) reading rest

def isEdgeSpace (char : Char) : Bool := char = ' ' || char = '\t' || char = '\n'

def inlinesOf (definitions : Link.Definitions) (text : Text) : List Inline :=
  let text := Text.dropEndWhile isEdgeSpace (text.dropWhile isEdgeSpace)
  (readFrom definitions 0 none {} text).inlines

end RichText.Markdown
