import RichText.Text.Case
import RichText.Text.Numeral

/-!
Raw markup inside Markdown: tags, comments, processing instructions, declarations and character data,
within a line of text or as blocks of their own. Markup is only delimited here, never interpreted.
-/

namespace RichText.Markdown.RawMarkup

def isSpace (char : Char) : Bool :=
  char = ' ' || char = '\t' || char = '\n' || char = '\x0b' || char = '\x0c' || char = '\r'

def afterFirst? (part : Text) : Text → Option Text
  | [] => none
  | char :: rest =>
      if part.isPrefixOf (char :: rest) then some ((char :: rest).drop part.length)
      else afterFirst? part rest

def isNameChar (char : Char) : Bool :=
  Text.isAsciiLetter char || Text.isAsciiDigit char || char = '-'

def afterName? : Text → Option Text
  | [] => none
  | char :: rest =>
      if Text.isAsciiLetter char then some (rest.dropWhile isNameChar) else none

def startsAttribute (char : Char) : Bool :=
  Text.isAsciiLetter char || char = '_' || char = ':'

def isAttributeChar (char : Char) : Bool :=
  startsAttribute char || Text.isAsciiDigit char || char = '.' || char = '-'

def isBareValueChar (char : Char) : Bool :=
  !(char = '"' || char = '\x27' || char = '=' || char = '<' || char = '>' || char = '\x60' ||
    char.toNat ≤ 0x20)

def afterValue? : Text → Option Text
  | '"' :: rest => afterFirst? "\"" rest
  | '\x27' :: rest => afterFirst? "\x27" rest
  | rest =>
      if (rest.takeWhile isBareValueChar).isEmpty then none
      else some (rest.dropWhile isBareValueChar)

def afterAttribute? (text : Text) : Option Text :=
  match text, text.dropWhile isSpace with
  | first :: _, char :: rest =>
      if isSpace first && startsAttribute char then
        let rest := rest.dropWhile isAttributeChar
        match rest.dropWhile isSpace with
        | '=' :: value => afterValue? (value.dropWhile isSpace)
        | _ => some rest
      else none
  | _, _ => none

def afterAttributes (text : Text) : Text :=
  match afterAttribute? text with
  | none => text
  | some rest => if rest.length < text.length then afterAttributes rest else text
termination_by text.length

/-- What follows an opening tag, after its first bracket. -/
def afterOpeningTag? (text : Text) : Option Text := do
  let rest ← afterName? text
  match (afterAttributes rest).dropWhile isSpace with
  | '>' :: rest => some rest
  | '/' :: '>' :: rest => some rest
  | _ => none

/-- What follows a closing tag, after its bracket and slash. -/
def afterClosingTag? (text : Text) : Option Text := do
  let rest ← afterName? text
  match rest.dropWhile isSpace with
  | '>' :: rest => some rest
  | _ => none

def afterComment? : Text → Option Text
  | '>' :: rest => some rest
  | '-' :: '>' :: rest => some rest
  | rest => afterFirst? "-->" rest

/-- What follows markup within a line, after its first bracket. -/
def afterInline? : Text → Option Text
  | '/' :: rest => afterClosingTag? rest
  | '?' :: rest => afterFirst? "?>" rest
  | '!' :: '-' :: '-' :: rest => afterComment? rest
  | '!' :: '[' :: 'C' :: 'D' :: 'A' :: 'T' :: 'A' :: '[' :: rest => afterFirst? "]]>" rest
  | '!' :: char :: rest => if Text.isAsciiLetter char then afterFirst? ">" rest else none
  | rest => afterOpeningTag? rest

/-- What ends a block of markup. -/
inductive Ending
  | blankLine
  /-- The first line that holds one of the texts, in any letter case. -/
  | line (ends : List Text)
  deriving Repr

def Ending.isAt (ending : Ending) (line : Text) : Bool :=
  match ending with
  | .blankLine => false
  | .line ends => ends.any fun part => Text.hasPart part (Text.lower line)

/-- Names of tags whose content is no markup. -/
def verbatimNames : List Text := [("pre" : Text), "script", "style", "textarea"]

/-- Names of tags that begin a block of markup. -/
def blockNames : List Text := [
  ("address" : Text), "article", "aside", "base", "basefont", "blockquote", "body", "caption",
  "center", "col", "colgroup", "dd", "details", "dialog", "dir", "div", "dl", "dt", "fieldset",
  "figcaption", "figure", "footer", "form", "frame", "frameset"] ++ [
  ("h1" : Text), "h2", "h3", "h4", "h5", "h6", "head", "header", "hr", "html", "iframe", "legend",
  "li", "link", "main", "menu", "menuitem"] ++ [
  ("nav" : Text), "noframes", "ol", "optgroup", "option", "p", "param", "search", "section", "summary",
  "table", "tbody", "td", "tfoot", "th", "thead", "title", "tr", "track", "ul"]

def isOneOf (names : List Text) (text : Text) : Bool :=
  names.contains (Text.lower (text.takeWhile isNameChar))

/-- Whether a name that was just read ends there. -/
def endsName : Text → Bool
  | [] => true
  | char :: _ => isSpace char || char = '>'

def endsBlockName : Text → Bool
  | '/' :: '>' :: _ => true
  | rest => endsName rest

def startsVerbatim (text : Text) : Bool :=
  isOneOf verbatimNames text && endsName (text.dropWhile isNameChar)

def startsBlockTag (text : Text) : Bool :=
  let name : Text :=
    match text with
    | '/' :: rest => rest
    | rest => rest
  isOneOf blockNames name && endsBlockName (name.dropWhile isNameChar)

/-- Whether a tag of any other name stands alone on the line. -/
def isLoneTag (text : Text) : Bool :=
  let after : Option Text :=
    match text with
    | '/' :: rest => afterClosingTag? rest
    | rest => afterOpeningTag? rest
  match after with
  | some rest => rest.all isSpace
  | none => false

/-- The block of markup that begins after a bracket at the start of a line. A tag that merely stands
alone does not interrupt a paragraph. -/
def blockEnding? (interrupts : Bool) (text : Text) : Option Ending :=
  if startsVerbatim text then
    some (.line (verbatimNames.map fun name => "</" ++ name ++ ">"))
  else
    match text with
    | '!' :: '-' :: '-' :: _ => some (.line [("-->" : Text)])
    | '?' :: _ => some (.line [("?>" : Text)])
    | '!' :: '[' :: 'C' :: 'D' :: 'A' :: 'T' :: 'A' :: '[' :: _ => some (.line [("]]>" : Text)])
    | '!' :: char :: _ => if Text.isAsciiLetter char then some (.line [(">" : Text)]) else none
    | text =>
        if startsBlockTag text || (!interrupts && isLoneTag text) then some .blankLine else none

end RichText.Markdown.RawMarkup
