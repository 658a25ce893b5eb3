import RichText.Command
import RichText.Log
import RichText.Page.Expand
import RichText.Render.Document
import RichText.Source
import RichText.Text.Style

/-!
What a command does: it loads settings and a snapshot, computes a text, and prints it or writes it to
a file. Files are only looked at here; what is to be written is part of the outcome.
-/

namespace RichText

namespace Command

inductive Fault
  | fragmentMissing (path : Text)
  | fragmentFolder
  | fragmentEncoding (fault : Text.Utf8.Fault)
  /-- Settings or a snapshot cannot be loaded. -/
  | input (fault : Source.Fault)
  | document (fault : Source.Fault)
  | content (fault : RichText.Fault)
  | outputFolderMissing
  | outputInFile
  | outputIsFolder

namespace Fault

/-- What is said about a fault of the input; the other faults break a run off. -/
def report? : Fault → Option Text
  | .fragmentMissing path => some ("File not found: " ++ path)
  | .input fault => if fault.isReported then some fault.message else none
  | .document fault => if fault.isOfContent then some fault.message else none
  | _ => none

end Fault

/-- What comes of a command. -/
inductive Product
  | printed (text : Text)
  | written (path : Path) (text : Text)
  | noMarkers
  deriving DecidableEq, Repr

namespace Product

/-- What goes to the standard output. -/
def output : Product → Text
  | .printed text => text
  | _ => []

def remark : Product → Text
  | .printed _ => []
  | .written path _ => "Output written to " ++ path.toText ++ "\n"
  | .noMarkers => "No markers found\n"

/-- The files with what was written to one of them. -/
def applied (files : Files) : Product → Files
  | .written path text => files.write path text
  | _ => files

end Product

def fragmentAt (files : Files) (path : Path) : Except Fault Text :=
  match files.item? path with
  | none => .error (.fragmentMissing path.toText)
  | some .folder => .error .fragmentFolder
  | some (.file bytes) => (Files.textOf bytes).mapError .fragmentEncoding

/-- The settings and the store of a job. Settings that are named have to be there. -/
def setting (files : Files) (config : Option Path) (job : Job) : Traced Fault Setting := do
  match config.filter fun path => !files.has path with
  | some path => Traced.fail (.input (.configMissing path.toText))
  | none =>
      let config ← Traced.ofExcept ((Source.resolveConfig files job.input config).mapError .input)
      let store ← (Source.loadSnapshot files config job.snapshot).mapFault .input
      return { store, config }

def rendered (files : Files) (setting : Setting) (job : Job) : Traced Fault Text := do
  let root ← Traced.ofExcept
    ((Source.loadDocument files job.input.toText job.input).mapError .document)
  (Render.document setting root).mapFault .content

def expanded (setting : Setting) (fragment : Text) : Traced Fault Text :=
  (Page.expand setting.config setting.store fragment).mapFault .content

/-- The folders that a path leads through. -/
def folders (path : Path) : List Path :=
  (List.range path.parts.length).map fun count => { path with parts := path.parts.take count }

def checkFolder (files : Files) (path : Path) : Except Fault Unit :=
  match files.item? path with
  | none => .error .outputFolderMissing
  | some (.file _) => .error .outputInFile
  | some .folder => .ok ()

/-- Whether a text can be written to a path: in a folder that is there, and not in place of one. -/
def checkOutput (files : Files) (path : Path) : Except Fault Unit := do
  (folders path).forM (checkFolder files)
  match files.item? path with
  | some .folder => .error .outputIsFolder
  | _ => .ok ()

/-- Prints a text, or writes it if the job says where. A line feed is added. -/
def delivered (files : Files) (job : Job) (text : Text) : Except Fault Product :=
  match job.output with
  | none => .ok (.printed (text ++ "\n"))
  | some path => (checkOutput files path).map fun _ => .written path (text ++ "\n")

/-- A line about a marker: kind, id and key, or the text of a marker without an id. -/
def markerLine (found : Marker.Found) : Text :=
  match found.marker with
  | none => "invalid\t-\t-\t" ++ found.raw
  | some marker =>
      let key := (marker.key.filter fun key => !key.isEmpty).getD "-"
      marker.kind.tag ++ "\t" ++ marker.id ++ "\t" ++ key

def markerList : List Marker.Found → Product
  | [] => .noMarkers
  | found => .printed (found.flatMap fun found => markerLine found ++ "\n")

def run (files : Files) (config : Option Path) : Command → Traced Fault Product
  | .render job => do
      let setting ← setting files config job
      let fragment ← rendered files setting job
      Traced.ofExcept (delivered files job fragment)
  | .expand job => do
      let fragment ← Traced.ofExcept (fragmentAt files job.input)
      let setting ← setting files config job
      let page ← expanded setting fragment
      Traced.ofExcept (delivered files job page)
  | .build job => do
      let setting ← setting files config job
      let fragment ← rendered files setting job
      let page ← expanded setting fragment
      Traced.ofExcept (delivered files job page)
  | .markers fragment => do
      let fragment ← Traced.ofExcept (fragmentAt files fragment)
      let found ← Traced.ofExcept
        ((Marker.scan fragment).mapError fun fault => .content (.reference fault))
      return markerList found

end Command

/-- What a run leaves. -/
structure Report where
  exitCode : Nat
  output : Text
  /-- The log and what is said about the outcome. -/
  messages : Text
  deriving DecidableEq, Repr

namespace Invocation

/-- The paths that matter to a job: its files, those of its tables, and where its output goes. -/
def jobPaths (files : Files) (config : Option Path) (job : Job) : List Path :=
  let locale :=
    match Source.resolveConfig files job.input config with
    | .ok config => config.locale
    | .error _ => []
  Source.configPlaces job.input config ++ [job.input, job.snapshot] ++
    Source.tablePaths files locale job.snapshot ++
    job.output.toList.flatMap fun path => Command.folders path ++ [path]

/-- The paths that a run looks at, as far as the files known so far tell. -/
def paths (files : Files) (invocation : Invocation) : List Path :=
  match invocation.command.job? with
  | some job => jobPaths files invocation.config job
  | none => [invocation.command.input]

def run (files : Files) (invocation : Invocation) : Traced Command.Fault Command.Product :=
  Command.run files invocation.config invocation.command

def log (invocation : Invocation) : Log := Log.forVerbosity invocation.verbosity

/-- The report on a run. None stands for a run that broke off. -/
def report? (invocation : Invocation) (result : Traced Command.Fault Command.Product) :
    Option Report :=
  let transcript := invocation.log.transcript result.notices
  match result.outcome with
  | .ok product =>
      some ⟨0, product.output.withoutStyles, transcript ++ product.remark.withoutStyles⟩
  | .error fault =>
      fault.report?.map fun message =>
        ⟨1, [], transcript ++ Text.withoutStyles ("Error: " ++ message ++ "\n")⟩

end Invocation

end RichText
