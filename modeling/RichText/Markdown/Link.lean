import RichText.Text.Blank
import RichText.Text.Case
import RichText.Text.Percent
import RichText.Text.Punctuation
import RichText.Text.Reference

/-!
The parts of Markdown links: labels, destinations and titles, the tail of an inline link, and the
definitions that give labels their destinations.
-/

namespace RichText.Markdown.Link

def isLineSpace (char : Char) : Bool := char = ' ' || char = '\t'

def skipSpaces (text : Text) : Text := text.dropWhile isLineSpace

/-- Skips spaces with at most one line end among them. -/
def skipSpacesAndLine (text : Text) : Text :=
  match skipSpaces text with
  | '\n' :: rest => skipSpaces rest
  | rest => rest

/-- Backslashes before punctuation removed. -/
def unescaped : Text → Text
  | '\\' :: char :: rest =>
      if Text.isAsciiPunctuation char then char :: unescaped rest
      else '\\' :: unescaped (char :: rest)
  | char :: rest => char :: unescaped rest
  | [] => []

/-- Replaces character references that a semicolon closes, after passing over some characters. -/
def withReferencesAfter : Nat → Text → Text
  | _, [] => []
  | skipped + 1, _ :: rest => withReferencesAfter skipped rest
  | 0, '&' :: rest =>
      match Text.Reference.read? rest with
      | some (text, size) =>
          if Text.endsWith (rest.take size) ";" then text ++ withReferencesAfter size rest
          else '&' :: withReferencesAfter 0 rest
      | none => '&' :: withReferencesAfter 0 rest
  | 0, char :: rest => char :: withReferencesAfter 0 rest

def encoded (url : Text) : Text := Text.percentEncoded (withReferencesAfter 0 url)

/-- The URL of a destination as written. -/
def urlOf (destination : Text) : Text := encoded (unescaped destination)

/-- A destination in angle brackets, after the first of them, and what follows it. -/
def angled? : Text → Option (Text × Text)
  | [] => none
  | '>' :: rest => some ([], rest)
  | '<' :: _ => none
  | '\n' :: _ => none
  | '\\' :: char :: rest =>
      if char = '\n' then none
      else (angled? rest).map fun (body, rest) => ('\\' :: char :: body, rest)
  | char :: rest => (angled? rest).map fun (body, rest) => (char :: body, rest)

/-- A destination without brackets, in which parentheses are balanced. -/
def bare? (depth : Nat) : Text → Option (Text × Text)
  | [] => if depth = 0 then some ([], []) else none
  | '\\' :: char :: rest =>
      if Text.isAsciiPunctuation char then
        (bare? depth rest).map fun (body, rest) => ('\\' :: char :: body, rest)
      else (bare? depth (char :: rest)).map fun (body, rest) => ('\\' :: body, rest)
  | '(' :: rest => (bare? (depth + 1) rest).map fun (body, rest) => ('(' :: body, rest)
  | ')' :: rest =>
      if depth = 0 then some ([], ')' :: rest)
      else (bare? (depth - 1) rest).map fun (body, rest) => (')' :: body, rest)
  | char :: rest =>
      if char.toNat ≤ 0x20 || char = '\x7f' then
        if depth = 0 then some ([], char :: rest) else none
      else (bare? depth rest).map fun (body, rest) => (char :: body, rest)

def destination? : Text → Option (Text × Text)
  | '<' :: rest => angled? rest
  | rest => bare? 0 rest

/-- What follows a title, after its opening sign. -/
def afterTitle? (closing : Char) : Text → Option Text
  | [] => none
  | '\\' :: char :: rest =>
      if Text.isAsciiPunctuation char then afterTitle? closing rest
      else afterTitle? closing (char :: rest)
  | char :: rest =>
      if char = closing then some rest
      else if closing = ')' && char = '(' then none
      else afterTitle? closing rest

/-- What follows a title in quotes of either kind or in parentheses. -/
def title? : Text → Option Text
  | '"' :: rest => afterTitle? '"' rest
  | '\x27' :: rest => afterTitle? '\x27' rest
  | '(' :: rest => afterTitle? ')' rest
  | _ => none

/-- The text after a part that takes something, or else nothing. -/
def skippedSome? (skip : Text → Text) (text : Text) : Option Text :=
  let rest := skip text
  if rest.length < text.length then some rest else none

def closed? (text : Text) : Option Text :=
  match skipSpacesAndLine text with
  | ')' :: rest => some rest
  | _ => none

/-- The tail of an inline link, after its parenthesis: a destination, and a title after a space. -/
def tail? (text : Text) : Option (Text × Text) := do
  let (destination, rest) ← destination? (skipSpacesAndLine text)
  let titled := ((skippedSome? skipSpacesAndLine rest).bind title?).bind closed?
  let rest ← titled <|> closed? rest
  return (urlOf destination, rest)

/-- The most characters that a label may have. -/
def labelLimit : Nat := 999

/-- A label after its bracket, and what follows it. Only an escaped bracket may stand in it. -/
def label? : Text → Option (Text × Text)
  | [] => none
  | ']' :: rest => some ([], rest)
  | '[' :: _ => none
  | '\\' :: char :: rest => (label? rest).map fun (body, rest) => ('\\' :: char :: body, rest)
  | char :: rest => (label? rest).map fun (body, rest) => (char :: body, rest)

/-- Labels are the same if they differ only in letter case and in their spaces. -/
def normalLabel (label : Text) : Text :=
  Text.upper (Text.lower (Text.join " " (Text.words Text.isBlank label)))

/-- Destinations by label. Of definitions with the same label the first counts. -/
abbrev Definitions := List (Text × Text)

def urlFor? (definitions : Definitions) (label : Text) : Option Text :=
  let normal := normalLabel label
  if label.length > labelLimit || normal.isEmpty then none else definitions.lookup normal

/-- What follows the end of a line, if nothing but spaces stands before it. -/
def afterLineEnd? (text : Text) : Option Text :=
  match skipSpaces text with
  | [] => some []
  | '\n' :: rest => some rest
  | _ => none

/-- A definition at the start of a text, and what follows it. -/
def definition? (text : Text) : Option ((Text × Text) × Text) :=
  match text with
  | '[' :: rest => do
      let (label, rest) ← label? rest
      let normal := normalLabel label
      if label.length > labelLimit || normal.isEmpty then none
      else
        match rest with
        | ':' :: rest =>
            let start := skipSpacesAndLine rest
            let (destination, rest) ← destination? start
            if rest.length < start.length then
              let titled := ((skippedSome? skipSpacesAndLine rest).bind title?).bind afterLineEnd?
              let rest ← titled <|> afterLineEnd? rest
              return ((normal, urlOf destination), rest)
            else none
        | _ => none
  | _ => none

/-- Takes the definitions off the start of a paragraph. -/
def takeDefinitions (text : Text) : Definitions × Text :=
  match definition? text with
  | none => ([], text)
  | some (definition, rest) =>
      if rest.length < text.length then
        let (others, rest) := takeDefinitions rest
        (definition :: others, rest)
      else ([], text)
termination_by text.length

end RichText.Markdown.Link
