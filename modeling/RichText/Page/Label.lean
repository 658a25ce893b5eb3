import RichText.Text.Blank
import RichText.Text.Case

/-!
Labels of columns: words that each start with a capital letter, made of a raw column name. Underscores
and hyphens separate words, and a last word `string` is dropped.
-/

namespace RichText.Label

/-- Letters of the dropped word are compared without regard to case. -/
def foldLetter (char : Char) : Char :=
  if char = 'ſ' then 's' else if char = 'İ' || char = 'ı' then 'i' else Text.smallLetter char

def isTypeWord (word : Text) : Bool := word.map foldLetter = "string"

def withoutLineEnd (name : Text) : Text :=
  if name.getLast? = some '\n' then name.dropLast else name

/-- Drops a last word `string` that blanks stand before. -/
def dropTypeWord (name : Text) : Text :=
  let line := withoutLineEnd name
  let rest := line.take (line.length - 6)
  if isTypeWord (line.drop (line.length - 6)) && (rest.getLast?.map Text.isBlank).getD false then rest
  else name

def capitalized : Text → Text
  | [] => []
  | char :: rest => Text.upperChar char ++ rest

def spaced (name : Text) : Text :=
  name.map fun char => if char = '_' || char = '-' then ' ' else char

def ofName (name : Text) : Text :=
  let words := Text.pieces (· = ' ') (Text.trim (dropTypeWord (spaced name)))
  Text.join " " (words.map capitalized)

end RichText.Label
