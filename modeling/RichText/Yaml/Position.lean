import RichText.Text.Basic

/-!
Positions in YAML text, and the characters that structure it.
-/

namespace RichText.Yaml

def isBreak (char : Char) : Bool :=
  char = '\n' || char = '\u0085' || char = '\u2028' || char = '\u2029'

/-- A line break as it stands in a value. -/
def normalBreak (char : Char) : Char := if char = '\u0085' then '\n' else char

def isBlank (char : Char) : Bool := char = ' ' || char = '\t'

/-- Whether a word ends here: at a blank, a line break, or the end of the text. -/
def endsWord : Text → Bool
  | [] => true
  | char :: _ => isBlank char || isBreak char

/-- Whether what comes next is a space, a line break, or the end of the text. -/
def endsPart : Text → Bool
  | [] => true
  | char :: _ => char = ' ' || isBreak char

def endsLine : Text → Bool
  | [] => true
  | char :: _ => isBreak char

/-- Whether a line begins with the mark between documents. -/
def isDocumentStart (line : Text) : Bool := Text.startsWith line "---" && endsWord (line.drop 3)

/-- Whether a line begins with the mark after a document. -/
def isDocumentEnd (line : Text) : Bool := Text.startsWith line "..." && endsWord (line.drop 3)

def isDocumentMark (line : Text) : Bool := isDocumentStart line || isDocumentEnd line

def isWordChar (char : Char) : Bool := char.isAlphanum || char = '-' || char = '_'

structure Position where
  index : Nat := 0
  line : Nat := 0
  column : Nat := 0

/-- The position after a character. A byte order mark takes no column. -/
def Position.next (position : Position) (char : Char) : Position :=
  if isBreak char then ⟨position.index + 1, position.line + 1, 0⟩
  else if char = '\ufeff' then ⟨position.index + 1, position.line, position.column⟩
  else ⟨position.index + 1, position.line, position.column + 1⟩

def Position.after (position : Position) (passed : Text) : Position := passed.foldl .next position

end RichText.Yaml
