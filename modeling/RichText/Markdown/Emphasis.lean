import RichText.Markdown.Token
import RichText.Text.Punctuation

/-!
Emphasis. Asterisks and underscores come in runs; what stands next to a run decides whether it may
open or close emphasis, and each closing run is matched with the nearest run that may open it. What
no partner is found for is text.
-/

namespace RichText.Markdown

/-- Text next to text is one text. -/
def joinTexts : List Inline → List Inline
  | [] => []
  | .text left :: tokens =>
      match joinTexts tokens with
      | .text right :: others => .text (left ++ right) :: others
      | others => .text left :: others
  | token :: tokens => token :: joinTexts tokens

/-- A run of one delimiting character. -/
structure Run where
  char : Char
  /-- The characters that are left of it. -/
  count : Nat
  /-- The characters that it had at first. -/
  size : Nat
  opens : Bool
  closes : Bool

namespace Run

def isSpaceOrEnd : Option Char → Bool
  | none => true
  | some char => char = '\n' || char = '\t' || char = '\x0c' || char = '\r' || char = ' ' ||
      char = '\u00a0' || char = '\u1680' || ('\u2000' ≤ char && char ≤ '\u200a') ||
      char = '\u202f' || char = '\u205f' || char = '\u3000'

def isPunctuation : Option Char → Bool
  | none => false
  | some char => Text.isPunctuation char

/-- A run between two characters. Underscores inside a word neither open nor close. -/
def ofContext (char : Char) (count : Nat) (before after : Option Char) : Run :=
  let left := !isSpaceOrEnd after &&
    (!isPunctuation after || isSpaceOrEnd before || isPunctuation before)
  let right := !isSpaceOrEnd before &&
    (!isPunctuation before || isSpaceOrEnd after || isPunctuation after)
  if char = '_' then
    { char, count, size := count
      opens := left && (!right || isPunctuation before)
      closes := right && (!left || isPunctuation after) }
  else { char, count, size := count, opens := left, closes := right }

def text (run : Run) : Text := List.replicate run.count run.char

/-- Whether one run opens what another closes. Where one of them might do both, sizes that add up to a
multiple of three do not match, unless both are such multiples. -/
def matchesWith (opener closer : Run) : Bool :=
  opener.opens && opener.char = closer.char &&
    !((opener.closes || closer.opens) && closer.size % 3 ≠ 0 &&
      (opener.size + closer.size) % 3 = 0)

end Run

/-- A part of a line: a finished token, or a run that may still find its partner. -/
inductive Piece
  | token (token : Inline)
  | run (run : Run)

namespace Piece

def toInline : Piece → Inline
  | .token inline => inline
  | .run signs => .text signs.text

/-- What pieces that come last first stand for. -/
def inlines (pieces : List Piece) : List Inline := joinTexts (pieces.reverse.map toInline)

end Piece

/-- The nearest run that opens what a run closes: the pieces after it, the run, and the pieces before
it. Pieces come last first. -/
def opener? (closer : Run) : List Piece → Option (List Piece × Run × List Piece)
  | [] => none
  | .run run :: before =>
      if run.matchesWith closer then some ([], run, before)
      else (opener? closer before).map fun (inside, found, rest) => (.run run :: inside, found, rest)
  | piece :: before =>
      (opener? closer before).map fun (inside, found, rest) => (piece :: inside, found, rest)

/-- The pieces after a run that may close emphasis. Two characters on both sides make strong emphasis,
and the run goes on with the characters that are left. -/
def closeEmphasis (pieces : List Piece) (closer : Run) : List Piece :=
  if closer.count = 0 then pieces
  else
    match opener? closer pieces with
    | none => .run closer :: pieces
    | some (inside, opener, before) =>
        let strong := opener.count ≥ 2 && closer.count ≥ 2
        let used := if strong then 2 else 1
        let content := Piece.inlines inside
        let token : Inline := if strong then .strong content else .emphasis content
        let left := opener.count - used
        let before := if left = 0 then before else .run { opener with count := left } :: before
        closeEmphasis (.token token :: before) { closer with count := closer.count - used }
termination_by closer.count
decreasing_by
  split <;> omega

/-- The next piece after pieces that come last first. -/
def addPiece (pieces : List Piece) : Piece → List Piece
  | .token token => .token token :: pieces
  | .run run => if run.closes then closeEmphasis pieces run else .run run :: pieces

/-- The tokens of a line whose pieces come last first. -/
def emphasized (pieces : List Piece) : List Inline :=
  Piece.inlines (pieces.reverse.foldl addPiece [])

end RichText.Markdown
