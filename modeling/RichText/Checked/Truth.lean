import RichText.Checked

/-!
Truth values in settings. Besides the two of them, some words and the numbers zero and one are read as
a truth value.
-/

namespace RichText.Checked

def trueWords : List Text := [("1" : Text), "t", "y", "on", "yes", "true"]

def falseWords : List Text := [("0" : Text), "f", "n", "no", "off", "false"]

/-- Letters from A to Z as small letters; other characters as they are. -/
def asciiLower (text : Text) : Text := text.map Char.toLower

def truthOfWord (word : Text) : Checked Bool :=
  if trueWords.contains (asciiLower word) then .valid true
  else if falseWords.contains (asciiLower word) then .valid false
  else fail .unclearTruth

/-- Only numbers of up to 64 bits are looked at as truth values. -/
def truthOfInt (number : Int) : Checked Bool :=
  if number = 1 then .valid true
  else if number = 0 then .valid false
  else if isWordSized number then fail .unclearTruth
  else fail .notTruth

def truth : Value → Checked Bool
  | .bool value => .valid value
  | .text word => truthOfWord word
  | .bytes word =>
      match Text.Utf8.decode word with
      | .ok word => truthOfWord word
      | .error _ => fail .unclearTruth
  | .int number => truthOfInt number
  | .float number =>
      match number.toInt? with
      | some whole => truthOfInt whole
      | none => fail .notTruth
  | _ => fail .notTruth

end RichText.Checked
