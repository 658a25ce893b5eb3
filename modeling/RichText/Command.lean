import RichText.Files.Path

/-!
Commands: rendering a document to a fragment, expanding a fragment to a page, building the page in one
step, and listing the markers of a fragment.
-/

namespace RichText

/-- What a command needs that uses a snapshot. -/
structure Job where
  /-- The document or the fragment. -/
  input : Path
  snapshot : Path
  /-- The file to write to, rather than to print. -/
  output : Option Path := none
  deriving DecidableEq, Repr

inductive Command
  | render (job : Job)
  | expand (job : Job)
  | build (job : Job)
  | markers (fragment : Path)
  deriving DecidableEq, Repr

namespace Command

def job? : Command → Option Job
  | .render job => some job
  | .expand job => some job
  | .build job => some job
  | .markers _ => none

def input : Command → Path
  | .render job => job.input
  | .expand job => job.input
  | .build job => job.input
  | .markers fragment => fragment

end Command

/-- A command with the options that all commands share. -/
structure Invocation where
  command : Command
  /-- How much the log shows, from 0 to 3. -/
  verbosity : Int := 0
  config : Option Path := none
  deriving DecidableEq, Repr

end RichText
