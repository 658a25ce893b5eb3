import RichText.Config
import RichText.Fault
import RichText.HeadingScope
import RichText.Store
import RichText.Traced

/-!
What a document is rendered against: the entities it refers to, the settings, and two optional hooks
of the caller.
-/

namespace RichText

/-- A hook gets the id of an entry and the entry itself, if it is known. -/
abbrev EntryHook := Text → Option Entry → Option Text

structure Setting where
  store : Store := {}
  config : Config := {}
  entryUrl : Option EntryHook := none
  /-- A rendering that replaces that of an embedded entry. -/
  entryMarkup : Option EntryHook := none

namespace Setting

def kindOf (setting : Setting) (entry : Entry) : Component.Kind :=
  entry.kind setting.config.contentTypes.aliases

end Setting

/-- Rich text entries that are being expanded around a node, the outermost first. -/
abbrev Trail := List Text

abbrev Rendered := Traced Fault Text

end RichText
