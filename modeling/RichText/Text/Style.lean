import RichText.Text.Basic

/-!
Terminal styles inside a text: an escape character, a bracket, parameters and a letter. They are left
out of what a command prints.
-/

namespace RichText.Text

def isStyleParameter (char : Char) : Bool := char = ';' || char = '?' || ('0' ≤ char && char ≤ '9')

def isStyleEnd (char : Char) : Bool :=
  ('a' ≤ char && char ≤ 'z') || ('A' ≤ char && char ≤ 'Z')

/-- Whether a character continues a style that was opened by the given characters, last first. -/
def continuesStyle (opened : Text) (char : Char) : Bool :=
  if opened.length = 1 then char = '[' else isStyleParameter char

/-- Drops styles; the first argument holds the characters since an escape character, last first. -/
def dropStylesFrom : Option Text → Text → Text
  | none, [] => []
  | some opened, [] => opened.reverse
  | none, char :: rest =>
      if char = '\x1b' then dropStylesFrom (some [char]) rest else char :: dropStylesFrom none rest
  | some opened, char :: rest =>
      if continuesStyle opened char then dropStylesFrom (some (char :: opened)) rest
      else if 1 < opened.length && isStyleEnd char then dropStylesFrom none rest
      else if char = '\x1b' then opened.reverse ++ dropStylesFrom (some [char]) rest
      else opened.reverse ++ char :: dropStylesFrom none rest

/-- The text without styles. A style that is never finished stays. -/
def withoutStyles (text : Text) : Text := dropStylesFrom none text

end RichText.Text
