import RichText.Command.Arguments
import RichText.Command.Run

/-!
The program: it looks at the files that an invocation needs, runs it, and carries out what comes of it.
-/

namespace RichText

/-- What lies at a path. What is there but cannot be read counts as a folder. -/
def itemAt? (path : Path) : IO (Option Item) := do
  try
    let bytes ← IO.FS.readBinFile (String.ofList path.toText)
    return some (.file bytes.toList)
  catch
    | .noFileOrDirectory .. => return none
    -- the way leads through a file
    | .inappropriateType _ 20 _ => return none
    | _ => return some .folder

/-- The files with what lies at further paths. -/
def look (files : Files) : List Path → IO Files
  | [] => return files
  | path :: paths => do
      if (files.items.lookup path).isSome then look files paths
      else
        match ← itemAt? path with
        | some item => look ⟨(path, item) :: files.items⟩ paths
        | none => look files paths

def carryOut : Command.Product → IO Unit
  | .written path text => IO.FS.writeFile (String.ofList path.toText) (String.ofList text)
  | _ => return ()

def execute (invocation : Invocation) : IO UInt32 := do
  let files ← look {} (invocation.paths {})
  -- the snapshot tells where its tables are
  let files ← look files (invocation.paths files)
  let result := invocation.run files
  match result.outcome with
  | .ok product => carryOut product
  | .error _ => pure ()
  match invocation.report? result with
  | some report =>
      IO.print (String.ofList report.output)
      IO.eprint (String.ofList report.messages)
      return UInt32.ofNat report.exitCode
  | none =>
      IO.eprint (String.ofList (invocation.log.transcript result.notices))
      IO.eprintln "The run broke off: a file cannot be used."
      return 1

def usage : String :=
  "Usage: [-v 0..3] [-c CONFIG] (render | expand | build) INPUT -s SNAPSHOT [-o OUTPUT]\n" ++
  "       [-v 0..3] [-c CONFIG] markers FRAGMENT"

end RichText

def main (arguments : List String) : IO UInt32 := do
  match RichText.Invocation.ofTexts? (arguments.map String.toList) with
  | some invocation => RichText.execute invocation
  | none =>
      IO.eprintln RichText.usage
      return 2
