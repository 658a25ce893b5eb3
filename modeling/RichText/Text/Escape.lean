import RichText.Text.Basic

/-!
Writing arbitrary text into markup: as element text, as an attribute value between double quotes, and
inside a comment.
-/

namespace RichText.Text

def escapeChar (char : Char) : Text :=
  if char = '&' then "&amp;"
  else if char = '<' then "&lt;"
  else if char = '>' then "&gt;"
  else if char = '"' then "&quot;"
  else if char = '\x27' then "&#x27;"
  else [char]

/-- Element text: no character of it can open or close a tag, a reference or an attribute. -/
def escape (text : Text) : Text := text.flatMap escapeChar

def escapeAttributeChar (char : Char) : Text :=
  if char = '&' then "&amp;"
  else if char = '"' then "&quot;"
  else if char = '\x27' then "&#x27;"
  else [char]

/-- An attribute value: free of quotes, so that it ends where its writer ends it. -/
def escapeAttribute (text : Text) : Text := text.flatMap escapeAttributeChar

/-- Each run of hyphens as a single one. -/
def singleHyphens : Text → Text
  | [] => []
  | '-' :: rest =>
      match rest with
      | '-' :: _ => singleHyphens rest
      | _ => '-' :: singleHyphens rest
  | char :: rest => char :: singleHyphens rest

/-- A comment that its text cannot end. -/
def comment (text : Text) : Text :=
  "<!-- " ++ replace '>' "&gt;" (singleHyphens text) ++ " -->"

end RichText.Text
