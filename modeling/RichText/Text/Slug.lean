import RichText.Text.Blank
import RichText.Text.Case
import RichText.Text.Numeral

/-!
Slugs: small letters a to z and digits, in words joined by single hyphens. An anchor keeps the
hyphens of its text as word boundaries; a key hint drops them, so that a hyphenated word stays one
word.
-/

namespace RichText.Text

def isSlugChar (char : Char) : Bool := ('a' ≤ char && char ≤ 'z') || isAsciiDigit char

/-- Slug of a text whose words end at the separating characters; other characters are dropped. -/
def slugOf (separates : Char → Bool) (text : Text) : Text :=
  join "-" (words separates ((lower text).filter fun char => isSlugChar char || separates char))

def isAnchorSeparator (char : Char) : Bool := char = '-' || isBlank char

/-- The anchor of a heading. -/
def slug (text : Text) : Text := slugOf isAnchorSeparator text

/-- The key hint that a heading gives to the tables below it. -/
def hintSlug (text : Text) : Text := slugOf isBlank text

end RichText.Text
