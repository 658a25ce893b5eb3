import RichText.Text.Reference

/-!
Plain text of a piece of markup.
-/

namespace RichText.Text

/-- Drops tags; the first argument holds the characters since an angle bracket opened, last first. -/
def dropTagsFrom : Option Text → Text → Text
  | none, [] => []
  | some opened, [] => opened.reverse
  | none, '<' :: rest => dropTagsFrom (some ['<']) rest
  | none, char :: rest => char :: dropTagsFrom none rest
  | some _, '>' :: rest => dropTagsFrom none rest
  | some opened, char :: rest => dropTagsFrom (some (char :: opened)) rest

/-- The markup without its tags. An angle bracket that is never closed stays. -/
def dropTags (markup : Text) : Text := dropTagsFrom none markup

/-- The markup without its tags, references replaced. -/
def ofMarkup (markup : Text) : Except Reference.Fault Text := unescaped (dropTags markup)

end RichText.Text
