import RichText.Checked
import RichText.Component
import RichText.Localized

/-!
Snapshots: entries, assets and tables by id. Fields may be localized, an asset may keep some of its
fields under `file`, and a table has its rows in the snapshot or in a file of comma-separated text.
-/

namespace RichText

open Checked

/-- A table as it stands in a snapshot. -/
structure Table where
  id : Text := []
  title : Text := []
  header : List Text := []
  rows : List (List Text) := []
  keyColumn : Option Text := none
  /-- The path of the file with the rows. -/
  csv : Option Text := none
  deriving DecidableEq, Repr

namespace Table

/-- The values that a value is made of, if it is not null. -/
def series : Value → Checked (List Value)
  | .null => .valid []
  | value =>
      match value.series? with
      | some values => .valid values
      | none => .unreadable

def headerTexts (value : Value) : Checked (List Text) := (series value).map (List.map Value.toText)

def cellText : Value → Text
  | .null => []
  | value => value.toText

def rowTexts : Value → Checked (List Text)
  | .null => .unreadable
  | row => (series row).map (List.map cellText)

def rowsTexts (value : Value) : Checked (List (List Text)) :=
  (series value).andThen fun rows => Checked.all (rows.map rowTexts)

def given (text : Option Text) : Bool := text.any fun text => !text.isEmpty

/-- The rows come from one place, and rows in the snapshot have a header. -/
def checkPlace (table : Table) : Checked Table :=
  if given table.csv && !(table.header.isEmpty && table.rows.isEmpty) then
    fail (.rule "Dataset cannot have both 'csv' and inline 'header'/'rows'")
  else if !given table.csv && !table.rows.isEmpty && table.header.isEmpty then
    fail (.rule "Dataset with inline 'rows' needs a 'header'")
  else .valid table

def check (value : Value) : Checked Table :=
  let read := fields fun entries =>
    Table.mk []
      <$> optional "title" [] text entries
      <*> optional "header" [] headerTexts entries
      <*> optional "rows" [] rowsTexts entries
      <*> optionalEither "keyColumn" "key_column" none textOrNull entries
      <*> optional "csv" none textOrNull entries
  (read value).andThen checkPlace

end Table

namespace Entry

/-- Fields by name; null stands for none. -/
def checkFields : Value → Checked Fields
  | .null => .valid []
  | value => mapping .valid value

/-- An entry without its id. Localized fields are unwrapped. -/
def check (locale : Text) : Value → Checked Entry :=
  Checked.fields fun entries =>
    (fun contentType fields => {
        id := []
        contentType
        fields := fields.map fun (name, value) => (name, Localized.unwrap locale value) })
      <$> requiredEither "contentType" "content_type" text entries
      <*> optional "fields" [] checkFields entries

end Entry

namespace Asset

def unwrapAll (locale : Text) (entries : List (Value × Value)) : List (Value × Value) :=
  entries.map fun (name, value) => (name, Localized.unwrap locale value)

def isNamed (name : Text) (entry : Value × Value) : Bool :=
  match entry.1 with
  | .text other => other = name
  | _ => false

/-- The fields that may stand under `file`. -/
def fileFields : List Text := [("url" : Text), "fileName", "contentType"]

/-- Adds a field of a file, unless the asset has that field itself. -/
def addField (file entries : List (Value × Value)) (name : Text) : List (Value × Value) :=
  match Value.lookup name entries, Value.lookup name file with
  | none, some value => entries ++ [(.text name, value)]
  | _, _ => entries

/-- The fields of an asset in one place, with localized fields unwrapped. -/
def flattened (locale : Text) (entries : List (Value × Value)) : List (Value × Value) :=
  let entries := unwrapAll locale entries
  let own := entries.filter fun entry => !isNamed "file" entry
  match (Value.field "file" entries).opened with
  | .map file => fileFields.foldl (addField (unwrapAll locale file)) own
  | _ => own

/-- The text of any value, and of null the empty text. -/
def looseText : Value → Checked Text
  | .null => .valid []
  | value => .valid value.toText

/-- An asset without its id. -/
def check (locale : Text) : Value → Checked Asset :=
  fields fun entries =>
    let entries := flattened locale entries
    Asset.mk []
      <$> required "url" text entries
      <*> optional "title" [] looseText entries
      <*> optionalEither "fileName" "file_name" [] looseText entries
      <*> optionalEither "contentType" "content_type" [] looseText entries

end Asset

structure Snapshot where
  entries : List Entry := []
  assets : List Asset := []
  tables : List Table := []

namespace Snapshot

/-- The records of a section; null stands for none. -/
def section? {α : Type} (check : Value → Checked α) : Value → Checked (List (Text × α))
  | .null => .valid []
  | value => mapping check value

def check (locale : Text) (entries : List (Value × Value)) : Checked Snapshot :=
  (fun records assets tables => {
      entries := records.map fun (id, entry) => { entry with id }
      assets := assets.map fun (id, asset) => { asset with id }
      tables := tables.map fun (id, table) => { table with id } })
    <$> optional "entries" [] (section? (Entry.check locale)) entries
    <*> optional "assets" [] (section? (Asset.check locale)) entries
    <*> optional "datasets" [] (section? Table.check) entries

end Snapshot

end RichText
