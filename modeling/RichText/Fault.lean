import RichText.Node.Reader
import RichText.Text.Reference

/-!
What stops a run. Content of the wrong shape rarely does: most of it is shown as a placeholder.
-/

namespace RichText

inductive Fault
  | node (fault : Node.Fault)
  /-- A column selection is a single value and not a series. -/
  | columnsNotASeries
  /-- A heading tag has an ornamental digit. -/
  | ornamentalLevel
  /-- A cell looks like a number but has separators around it that no number may have. -/
  | unreadableAmount
  /-- A heading or a marker of a fragment has a reference that cannot be read. -/
  | reference (fault : Text.Reference.Fault)

end RichText
