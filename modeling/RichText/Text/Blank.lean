import RichText.Text.Ranges

/-!
Blank characters: spaces of every width, tabulators, line and paragraph ends, and the four
information separators.
-/

namespace RichText.Text

def blankRanges : List (Nat × Nat) := [
  (9, 13), (28, 32), (133, 133), (160, 160), (5760, 5760), (8192, 8202), (8232, 8233), (8239, 8239),
  (8287, 8287), (12288, 12288)]

def isBlank (char : Char) : Bool := inRanges blankRanges char

def trimStart (text : Text) : Text := text.dropWhile isBlank

def trimEnd (text : Text) : Text := dropEndWhile isBlank text

/-- The text without the blanks at its ends. -/
def trim (text : Text) : Text := trimEnd (trimStart text)

end RichText.Text
