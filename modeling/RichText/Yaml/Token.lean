import RichText.Yaml.Fault

/-!
The tokens of YAML text. Collections in block style have no signs of their own; the tokens for their
starts and ends follow from the indentation.
-/

namespace RichText.Yaml

inductive Directive
  | version (major minor : Nat)
  /-- A handle that stands for the beginning of tags. -/
  | handle (handle start : Text)
  | other

inductive Token
  | directive (directive : Directive)
  | documentStart
  | documentEnd
  | blockSequenceStart
  | blockMappingStart
  | blockEnd
  | flowSequenceStart
  | flowSequenceEnd
  | flowMappingStart
  | flowMappingEnd
  | blockEntry
  | flowEntry
  | key
  | value
  | alias (name : Text)
  | anchor (name : Text)
  | tag (handle : Option Text) (suffix : Text)
  | scalar (text : Text) (plain : Bool)
  | streamEnd
  /-- The text cannot be read from here on. -/
  | fault (fault : Fault)

end RichText.Yaml
