import RichText.Marker
import RichText.Text.Case
import RichText.Text.Quoted
import RichText.Text.Reference
import RichText.Text.Blank
import RichText.Text.Word

/-!
Reading markers back, one by one and out of a fragment. A tag may be spelled with a hyphen, attributes
come in any order and letter case, and unknown ones are kept. A marker without an id is recognised as
a piece of its own, but it stands for nothing. A marker with a reference that cannot be read stops
whoever reads it.
-/

namespace RichText

namespace Text

/-- What follows a text that the given one starts with. -/
def after? (start text : Text) : Option Text :=
  if start.isPrefixOf text then some (text.drop start.length) else none

end Text

namespace Marker

inductive Fault
  | notAMarker (text : Text)
  | withoutId (text : Text)
  | reference (fault : Text.Reference.Fault)
  deriving DecidableEq, Repr

/-- What is said about a text that is no marker. -/
def Fault.message? : Fault → Option Text
  | .notAMarker text => some ("Not a marker: " ++ Text.quoted text)
  | .withoutId text => some ("Marker has no id attribute: " ++ Text.quoted text)
  | .reference _ => none

def isNameStart (char : Char) : Bool := Text.isAsciiLetter char || char = '_'

def isNamePart (char : Char) : Bool := Text.isWord char || char = '-'

/-- Reads blanks, a name, and a value between quotes; returns what follows. -/
def readAttribute? (text : Text) : Option (Text × Text × Text) :=
  match text.dropWhile Text.isBlank with
  | [] => none
  | first :: rest =>
      if (text.takeWhile Text.isBlank).isEmpty || !isNameStart first then none
      else
        match rest.dropWhile isNamePart with
        | '=' :: '"' :: quoted =>
            match quoted.dropWhile (· ≠ '"') with
            | _ :: rest' =>
                some (first :: rest.takeWhile isNamePart, quoted.takeWhile (· ≠ '"'), rest')
            | [] => none
        | _ => none

theorem dropWhile_length_le (drops : Char → Bool) (text : Text) :
    (text.dropWhile drops).length ≤ text.length := by
  induction text with
  | nil => simp
  | cons char rest induction =>
      by_cases dropped : drops char
      · simp only [List.dropWhile_cons, dropped, if_true, List.length_cons]
        omega
      · simp [dropped]

theorem readAttribute_shorter {text name value rest : Text}
    (read : readAttribute? text = some (name, value, rest)) : rest.length < text.length := by
  unfold readAttribute? at read
  have blanks := dropWhile_length_le Text.isBlank text
  split at read
  · simp at read
  · rename_i first afterFirst start
    rw [start] at blanks
    have names := dropWhile_length_le isNamePart afterFirst
    split at read
    · simp at read
    · split at read
      · rename_i quoted opened
        rw [opened] at names
        have values := dropWhile_length_le (· ≠ '"') quoted
        split at read
        · rename_i mark rest' closed
          rw [closed] at values
          simp only [Option.some.injEq, Prod.mk.injEq] at read
          obtain ⟨_, _, rfl⟩ := read
          simp only [List.length_cons] at blanks names values
          omega
        · simp at read
      · simp at read

def readAttributes (text : Text) : List (Text × Text) × Text :=
  match _read : readAttribute? text with
  | none => ([], text)
  | some (name, value, rest) =>
      let (others, rest') := readAttributes rest
      ((name, value) :: others, rest')
termination_by text.length
decreasing_by exact readAttribute_shorter _read

def readKind? (text : Text) : Option (Kind × Text) :=
  Kind.all.findSome? fun kind => (Text.after? kind.label text).map fun rest => (kind, rest)

/-- Reads everything between the brackets that belongs to a marker. -/
def readWritten? (text : Text) : Option (Kind × List (Text × Text) × Text) :=
  match Text.after? "[richdoc" text with
  | none => none
  | some [] => none
  | some (mark :: rest) =>
      if mark = '_' || mark = '-' then
        (readKind? rest).bind fun (kind, rest) =>
          let (attributes, rest) := readAttributes rest
          match rest.dropWhile Text.isBlank with
          | ']' :: rest => some (kind, attributes, rest)
          | _ => none
      else none

/-- Stores an attribute: at the place of its name if that is there, at the end otherwise. -/
def insertAttribute (attributes : List (Text × Text)) (name value : Text) : List (Text × Text) :=
  match attributes with
  | [] => [(name, value)]
  | (other, old) :: rest =>
      if other = name then (other, value) :: rest
      else (other, old) :: insertAttribute rest name value

/-- The attributes by name in small letters, values unescaped; of a repeated name the last counts. -/
def namedAttributes (written : List (Text × Text)) : List (Text × Text) :=
  written.foldl
    (fun attributes (name, value) =>
      insertAttribute attributes (Text.lower name) (Text.unescape value)) []

/-- The marker with these attributes, if they have an id. -/
def ofWritten? (kind : Kind) (written : List (Text × Text)) : Option Marker :=
  let attributes := namedAttributes written
  let id := Text.trim (valueOf "id" attributes)
  let key := Text.trim (valueOf "key" attributes)
  if id.isEmpty then none
  else
    some {
      kind
      id
      key := if key.isEmpty then none else some key
      attributes := attributes.filter fun (name, _) => name ≠ "id" && name ≠ "key" }

/-- Reads a text that is exactly one marker, apart from blanks around it. Only its values can hold
references, so they are all legible if the marker is. -/
def ofText (text : Text) : Except Fault Marker :=
  match readWritten? (Text.trim text) with
  | some (kind, written, []) =>
      if (Text.trim text).isLegible then
        match ofWritten? kind written with
        | some marker => .ok marker
        | none => .error (.withoutId text)
      else .error (.reference .tooManyDigits)
  | _ => .error (.notAMarker text)

/-- A fragment is cut into markers and the text between them. -/
inductive Piece
  | plain (text : Text)
  | marker (raw : Text) (marker : Option Marker)
  deriving DecidableEq, Repr

def Piece.raw : Piece → Text
  | .plain text => text
  | .marker raw _ => raw

/-- Puts a character in front of the pieces, into the first one if that is plain. -/
def consPlain (char : Char) : List Piece → List Piece
  | .plain text :: pieces => .plain (char :: text) :: pieces
  | pieces => .plain [char] :: pieces

/-- The pieces of a text after passing over a number of characters. -/
def piecesAfter : Nat → Text → List Piece
  | _, [] => []
  | passed + 1, _ :: rest => piecesAfter passed rest
  | 0, char :: rest =>
      match readWritten? (char :: rest) with
      | some (kind, written, rest') =>
          let size := rest.length - rest'.length
          .marker ((char :: rest).take (size + 1)) (ofWritten? kind written) ::
            piecesAfter size rest
      | none => consPlain char (piecesAfter 0 rest)

def pieces (fragment : Text) : List Piece := piecesAfter 0 fragment

/-- A marker in a fragment with the positions of its first character and of the one after it. -/
structure Found where
  marker : Option Marker
  start : Nat
  stop : Nat
  raw : Text
  deriving DecidableEq, Repr

/-- The markers among pieces that start at a position. -/
def foundFrom (position : Nat) : List Piece → List Found
  | [] => []
  | .plain text :: pieces => foundFrom (position + text.length) pieces
  | .marker raw marker :: pieces =>
      ⟨marker, position, position + raw.length, raw⟩ :: foundFrom (position + raw.length) pieces

/-- Every marker of a fragment, in order, whether or not its values can be read. -/
def occurrences (fragment : Text) : List Found := foundFrom 0 (pieces fragment)

/-- Every marker of a fragment, in order. -/
def scan (fragment : Text) : Except Text.Reference.Fault (List Found) :=
  let found := occurrences fragment
  if found.all fun one => one.raw.isLegible then .ok found else .error .tooManyDigits

end Marker

end RichText
