import RichText.Yaml.Numeral
import RichText.Yaml.Timestamp

/-!
Tags tell what kind of value a node is. A plain scalar without a tag gets one by its form; other
scalars are text.
-/

namespace RichText.Yaml

inductive Tag
  | null
  | truth
  | integer
  | float
  | text
  | timestamp
  | bytes
  | sequence
  | mapping
  | set
  /-- A mapping that is written as a sequence of entries. -/
  | entries
  /-- The key under which the entries of other mappings are taken over. -/
  | merge
  /-- The sign for a default value, which is text where it is a key. -/
  | defaultSign
  | unknown
  deriving DecidableEq, Repr

namespace Tag

/-- What the names of standard tags begin with. -/
def standard : Text := "tag:yaml.org,2002:"

def names : List (Text × Tag) := [
  ("null", .null), ("bool", .truth), ("int", .integer), ("float", .float), ("str", .text),
  ("timestamp", .timestamp), ("binary", .bytes), ("seq", .sequence), ("map", .mapping),
  ("set", .set), ("omap", .entries), ("pairs", .entries), ("merge", .merge),
  ("value", .defaultSign)]

def ofName (name : Text) : Tag :=
  if Text.startsWith name standard then
    (names.lookup (name.drop standard.length)).getD .unknown
  else .unknown

def trueWords : List Text := [
  ("yes" : Text), "Yes", "YES", "true", "True", "TRUE", "on", "On", "ON"]

def falseWords : List Text := [
  ("no" : Text), "No", "NO", "false", "False", "FALSE", "off", "Off", "OFF"]

def nullWords : List Text := [("" : Text), "~", "null", "Null", "NULL"]

def ofPlain (text : Text) : Tag :=
  if trueWords.contains text || falseWords.contains text then .truth
  else if Numeral.isFloat text then .float
  else if Numeral.isInteger text then .integer
  else if text = "<<" then .merge
  else if nullWords.contains text then .null
  else if Timestamp.isTimestamp text then .timestamp
  else if text = "=" then .defaultSign
  else .text

end Tag

/-- A truth value in any letter case. -/
def truthOf (text : Text) : Except ScalarFault Bool :=
  let word := Text.lower text
  if Tag.trueWords.contains word then .ok true
  else if Tag.falseWords.contains word then .ok false
  else .error .notATruthValue

end RichText.Yaml
