import RichText.Config.Check
import RichText.Csv
import RichText.Files
import RichText.Node.Reader
import RichText.Snapshot
import RichText.Store
import RichText.Traced
import RichText.Yaml.Reader

/-!
Settings, snapshots, documents and tables read from files. All but tables are YAML, which covers JSON.
-/

namespace RichText.Source

inductive Fault
  | fileMissing (path : Text)
  | configMissing (path : Text)
  /-- A folder is where a file should be. -/
  | folder
  | encoding (fault : Text.Utf8.Fault)
  /-- A document or a snapshot is no YAML. -/
  | unparsable (name : Text)
  /-- The settings are no YAML. -/
  | configUnparsable (fault : Yaml.Fault)
  /-- A file is nested too deeply to be read. -/
  | tooDeep
  /-- A scalar in a file has no value. -/
  | scalar (fault : Yaml.ScalarFault)
  | emptyConfig
  | configNotAMapping
  | invalidConfig (issues : List Issue)
  | rootNotAMapping (name : Text)
  | documentNotAMapping
  /-- A section of a snapshot is named by something other than text. -/
  | sectionNotText
  /-- The rows of a table cannot be looked through. -/
  | rowsNotASeries
  | invalidSnapshot (name : Text) (issues : List Issue)
  | csvMissing (dataset path : Text)
  | csvUnreadable (dataset : Text)
  | node (fault : Node.Fault)

namespace Fault

def message : Fault → Text
  | .fileMissing path => "File not found: " ++ path
  | .configMissing path => "Config file not found: " ++ path
  | .folder => "Is a directory"
  | .encoding fault => fault.message
  | .unparsable name => "Failed to parse " ++ name
  | .configUnparsable _ => "Failed to parse the configuration"
  | .tooDeep => "Nested too deeply"
  | .scalar fault => fault.message
  | .emptyConfig => "Empty configuration file"
  | .configNotAMapping => "Configuration must be a mapping at the root level"
  | .invalidConfig issues =>
      let count := issues.length
      Text.ofNat count ++ (if count = 1 then " validation error" else " validation errors") ++
        " for RichdocConfig"
  | .rootNotAMapping name => name ++ " must contain a mapping at the root level"
  | .documentNotAMapping => "Document file must contain a mapping at the root level"
  | .sectionNotText => "A section is not named by text"
  | .rowsNotASeries => "The rows of a table are no series"
  | .invalidSnapshot name _ => "Invalid snapshot structure in " ++ name
  | .csvMissing dataset path => "CSV file not found for dataset '" ++ dataset ++ "': " ++ path
  | .csvUnreadable dataset => "Failed to read CSV for dataset '" ++ dataset ++ "'"
  | .node fault => fault.message

/-- Whether a fault is one of content, which every command reports. -/
def isOfContent : Fault → Bool
  | .fileMissing _ => true
  | .unparsable _ => true
  | .rootNotAMapping _ => true
  | .documentNotAMapping => true
  | .invalidSnapshot .. => true
  | .csvMissing .. => true
  | .csvUnreadable _ => true
  | .node fault => fault.isStructural
  | _ => false

/-- Whether a fault in settings or snapshots is reported: one of content, or of settings and values
that cannot be used. The others stop the run. -/
def isReported : Fault → Bool
  | .configMissing _ => true
  | .encoding _ => true
  | .emptyConfig => true
  | .configNotAMapping => true
  | .invalidConfig _ => true
  | .scalar fault =>
      !(fault matches .notATruthValue | .emptyNumber | .notATime | .timeInMapping)
  | fault => fault.isOfContent

end Fault

/-- The bytes of a file that is there. -/
def bytesAt (files : Files) (path : Path) (missing : Fault) : Except Fault (List UInt8) :=
  match files.item? path with
  | none => .error missing
  | some .folder => .error .folder
  | some (.file bytes) => .ok bytes

/-- The value of a YAML file, which is read piece by piece. -/
def valueAt (files : Files) (path : Path) (missing : Fault) (unparsable : Yaml.Fault → Fault) :
    Except Fault Value := do
  let bytes ← bytesAt files path missing
  let text ← (Files.textOf bytes).mapError fun fault =>
    .encoding (fault.inPieces Text.Utf8.pieceSize bytes)
  (Yaml.read text).mapError fun fault =>
    match fault with
    | .scalar fault => .scalar fault
    | .tooDeep => .tooDeep
    | fault => unparsable fault

def configOf (value : Value) : Except Fault Config :=
  if !value.isTruthy then .error .emptyConfig
  else
    match value.opened with
    | .map _ =>
        match Config.check value with
        | .valid config => .ok config
        | .invalid issues => .error (.invalidConfig issues)
        | .unreadable => .error .configNotAMapping
    | _ => .error .configNotAMapping

def loadConfig (files : Files) (path : Path) : Except Fault Config := do
  let value ← valueAt files path (.configMissing path.toText) .configUnparsable
  configOf value

/-- The name under which settings are looked for. -/
def configName : Path := ⟨[], ["richdoc_config.yaml"]⟩

/-- Where settings may lie: where it is said, beside the input, or in the folder of the run. -/
def configPlaces (input : Path) (given : Option Path) : List Path :=
  given.toList ++ [input.parent.join configName, configName]

/-- The settings for an input; the standard ones if there are none in any place. -/
def resolveConfig (files : Files) (input : Path) (given : Option Path) : Except Fault Config :=
  match (configPlaces input given).find? files.has with
  | some path => loadConfig files path
  | none => .ok {}

/-- The snapshot in a value. The name is the one that messages give the file. -/
def snapshotOf (name locale : Text) (value : Value) : Except Fault Snapshot :=
  match value.opened with
  | .null => .ok {}
  | .map entries =>
      if entries.any fun (key, _) => !(key matches .text _) then .error .sectionNotText
      else
        match Snapshot.check locale entries with
        | .valid snapshot => .ok snapshot
        | .invalid issues => .error (.invalidSnapshot name issues)
        | .unreadable => .error .rowsNotASeries
  | _ => .error (.rootNotAMapping name)

/-- The lines of a file of comma-separated text. -/
def linesAt (files : Files) (dataset : Text) (path : Path) : Except Fault (List (List Text)) := do
  let bytes ← bytesAt files path (.csvMissing dataset path.toText)
  let text ← (Files.textOf bytes).mapError fun _ => .csvUnreadable dataset
  (Csv.parse text).mapError fun _ => .csvUnreadable dataset

/-- A dataset with a file of its own, whose first line is the header. -/
def loadDataset (files : Files) (id title : Text) (path : Path) (keyName : Option Text) :
    Traced Fault Dataset := do
  let lines ← Traced.ofExcept (linesAt files id path)
  Traced.note (.rowsLoaded (lines.length - 1) id path.toText)
  (Dataset.ofLines id title lines keyName : Noted Dataset)

/-- The file that a table is in. Its path starts at the folder of the snapshot. -/
def tablePath? (folder : Path) (table : Table) : Option Path :=
  (table.csv.filter fun csv => !csv.isEmpty).map fun csv => folder.join (Path.ofText csv)

def datasetOf (files : Files) (config : Config) (folder : Path) (table : Table) :
    Traced Fault Dataset :=
  let keyName := (table.keyColumn.filter fun name => !name.isEmpty).getD config.tables.keyColumn
  match tablePath? folder table with
  | some path => loadDataset files table.id table.title path (some keyName)
  | none => pure (Dataset.ofRows table.id table.title table.header table.rows (some keyName) none)

/-- The store of a snapshot whose tables have their files in a folder or below it. -/
def storeOf (files : Files) (config : Config) (folder : Path) (snapshot : Snapshot) :
    Traced Fault Store := do
  let datasets ← snapshot.tables.mapM (datasetOf files config folder)
  return Store.ofLists snapshot.entries snapshot.assets datasets

/-- The snapshot in a file, for a locale. -/
def snapshotAt (files : Files) (locale : Text) (path : Path) : Except Fault Snapshot := do
  let value ← valueAt files path (.fileMissing path.toText) fun _ => .unparsable path.name
  snapshotOf path.name locale value

/-- The files that the tables of a snapshot are in. -/
def tablePaths (files : Files) (locale : Text) (path : Path) : List Path :=
  match snapshotAt files locale path with
  | .ok snapshot => snapshot.tables.filterMap (tablePath? path.parent)
  | .error _ => []

def loadSnapshot (files : Files) (config : Config) (path : Path) : Traced Fault Store := do
  let snapshot ← Traced.ofExcept (snapshotAt files config.locale path)
  let store ← storeOf files config path.parent snapshot
  Traced.note (.snapshotLoaded path.name snapshot.entries.length snapshot.assets.length
    snapshot.tables.length)
  return store

def documentOf (value : Value) : Except Fault Node :=
  match value.opened with
  | .map entries => (Node.documentOf entries).mapError .node
  | _ => .error .documentNotAMapping

/-- Reads a document. A missing file is named as the caller names it. -/
def loadDocument (files : Files) (given : Text) (path : Path) : Except Fault Node := do
  let value ← valueAt files path (.fileMissing given) fun _ => .unparsable path.name
  documentOf value

end RichText.Source
