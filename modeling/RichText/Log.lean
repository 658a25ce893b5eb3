import RichText.Notice

/-!
The log: where notices go. It shows the notices that are at least as grave as its threshold, one line
each, once it is set up; before that nothing is written.
-/

namespace RichText

structure Log where
  threshold : Level
  /-- Whether the log has a stream to write to. -/
  attached : Bool
  /-- Whether notices are handed on to an enclosing log. -/
  handsOn : Bool
  deriving DecidableEq, Repr

namespace Log

/-- The log before it is set up. -/
def initial : Log := ⟨.warning, false, true⟩

/-- The threshold for a verbosity from 0 to 3; other numbers count as the nearest of these. -/
def thresholdFor (verbosity : Int) : Level :=
  if verbosity ≤ 0 then .warning
  else if verbosity = 1 then .changes
  else if verbosity = 2 then .checks
  else .debug

def forVerbosity (verbosity : Int) : Log := ⟨thresholdFor verbosity, true, false⟩

def shows (log : Log) (level : Level) : Bool := log.threshold.rank ≤ level.rank

def checksEnabled (log : Log) : Bool := log.shows .checks

def written (log : Log) (level : Level) (message : Text) : Text :=
  if log.attached && log.shows level then level.name ++ ": " ++ message ++ "\n" else []

/-- What the log writes for the notices of a run. -/
def transcript (log : Log) (notices : List Notice) : Text :=
  notices.flatMap fun notice => log.written notice.level notice.message

end Log

end RichText
