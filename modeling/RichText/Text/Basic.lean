/-!
Text is a list of Unicode code points. String literals stand for their code points, so that the rules
below can be read, and reasoned about, one character at a time.
-/

namespace RichText

abbrev Text := List Char

instance : Coe String Text := ⟨String.toList⟩

namespace Text

def join (separator : Text) (parts : List Text) : Text := separator.intercalate parts

def startsWith (text start : Text) : Bool := start.isPrefixOf text

def endsWith (text ending : Text) : Bool := ending.isSuffixOf text

/-- Whether a part occurs somewhere in the text, the empty part included. -/
def hasPart (part : Text) : Text → Bool
  | [] => part.isEmpty
  | char :: rest => part.isPrefixOf (char :: rest) || hasPart part rest

/-- The pieces between separating characters, empty ones included; never the empty list. -/
def pieces (separates : Char → Bool) : Text → List Text
  | [] => [[]]
  | char :: rest =>
      if separates char then [] :: pieces separates rest
      else
        match pieces separates rest with
        | [] => [[char]]
        | piece :: others => (char :: piece) :: others

/-- The non-empty pieces between separating characters. -/
def words (separates : Char → Bool) (text : Text) : List Text :=
  (pieces separates text).filter fun piece => !piece.isEmpty

/-- Every occurrence of a character replaced by a text. -/
def replace (char : Char) (replacement : Text) (text : Text) : Text :=
  text.flatMap fun other => if other = char then replacement else [other]

def dropEndWhile (drops : Char → Bool) (text : Text) : Text :=
  (text.reverse.dropWhile drops).reverse

def ofNat (number : Nat) : Text := Nat.toDigits 10 number

def ofInt : Int → Text
  | .ofNat number => ofNat number
  | .negSucc number => '-' :: ofNat (number + 1)

/-- Whether one text comes before another or equals it, by code points. -/
def precedes : Text → Text → Bool
  | [], _ => true
  | _ :: _, [] => false
  | left :: lefts, right :: rights =>
      left < right || (left = right && precedes lefts rights)

/-- Texts in the order of their code points. -/
def sorted (texts : List Text) : List Text := texts.mergeSort precedes

/-- The texts without repetition, each at its first place. -/
def distinct (texts : List Text) : List Text :=
  texts.foldl (fun seen text => if text ∈ seen then seen else seen ++ [text]) []

end Text

end RichText
