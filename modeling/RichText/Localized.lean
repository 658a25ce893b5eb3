import RichText.Value

/-!
Localized values: a mapping from locales to values stands for the value of the wanted locale. Mappings
that describe a node or a link are content and not localizations.
-/

namespace RichText.Localized

def isContent (entries : List (Value × Value)) : Bool :=
  (Value.lookup "nodeType" entries).isSome || (Value.lookup "sys" entries).isSome

/-- The value for a locale; a value that is not localized stands for itself. -/
def unwrap (locale : Text) (value : Value) : Value :=
  match value.opened with
  | .map entries =>
      match Value.lookup locale entries with
      | some wanted => if isContent entries then value else wanted
      | none => value
  | _ => value

end RichText.Localized
