import RichText.Text.Basic

/-!
Lines of text. A line ends with a line feed, a carriage return, or both in this order.
-/

namespace RichText.Text

/-- The text with every line end written as a line feed. -/
def withLineFeeds : Text → Text
  | '\r' :: '\n' :: rest => '\n' :: withLineFeeds rest
  | '\r' :: rest => '\n' :: withLineFeeds rest
  | char :: rest => char :: withLineFeeds rest
  | [] => []

/-- The lines without their ends. An end at the end of the text begins no further line. -/
def lines (text : Text) : List Text :=
  let pieces := pieces (· = '\n') (withLineFeeds text)
  if pieces.getLast? = some [] then pieces.dropLast else pieces

end RichText.Text
