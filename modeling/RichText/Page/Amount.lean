import RichText.Fault
import RichText.Number.Grouped

/-!
Amounts in charts: a numeric cell is rounded to a whole number, its thousands are grouped, and a
prefix such as a currency sign is put in front. Other cells stay as they are.
-/

namespace RichText.Amount

/-- The cell as a chart shows it. Without a prefix every cell stays as it is. -/
def shown (cell labelPrefix : Text) : Except Fault Text :=
  if labelPrefix.isEmpty then .ok cell
  else
    match Binary64.readNumeral? (Text.trim cell), Binary64.read? cell with
    | none, _ => .ok cell
    | some _, none => .error .unreadableAmount
    | some _, some amount => .ok (labelPrefix ++ amount.toGroupedText)

end RichText.Amount
