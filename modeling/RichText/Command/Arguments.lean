import RichText.Command
import RichText.Number.Integer

/-!
Commands as they are written: shared options, the name of a command, then its options and its input in
any order. Every option takes a value, which follows it or is attached to it: `-s FILE`, `-sFILE`,
`--snapshot FILE` or `--snapshot=FILE`. The last of several values counts, and `--` ends the options.
-/

namespace RichText

namespace Command

structure Flag where
  letter : Char
  name : Text
  deriving DecidableEq, Repr

structure Arguments where
  options : List (Flag × Text) := []
  others : List Text := []
  deriving DecidableEq, Repr

namespace Arguments

def option? (arguments : Arguments) (flag : Flag) : Option Text :=
  arguments.options.reverse.lookup flag

def withOption (arguments : Arguments) (flag : Flag) (value : Text) : Arguments :=
  { arguments with options := (flag, value) :: arguments.options }

def withOther (arguments : Arguments) (argument : Text) : Arguments :=
  { arguments with others := argument :: arguments.others }

/-- A single hyphen is no option. -/
def isOption : Text → Bool
  | '-' :: _ :: _ => true
  | _ => false

/-- The option that an argument names, with the value attached to it. -/
def flag? (flags : List Flag) (argument : Text) : Option (Flag × Option Text) :=
  let isNamed (flag : Flag) : Bool := "--" ++ flag.name = argument.takeWhile (· ≠ '=')
  match flags.find? isNamed, argument with
  | some flag, _ =>
      match argument.dropWhile (· ≠ '=') with
      | [] => some (flag, none)
      | _ :: value => some (flag, some value)
  | none, '-' :: '-' :: _ => none
  | none, _ :: letter :: value =>
      (flags.find? fun flag => flag.letter = letter).map fun flag =>
        (flag, if value.isEmpty then none else some value)
  | none, _ => none

/-- Tells arguments apart. Unless they are mixed, the first one that is no option ends the options. -/
def ofTexts? (flags : List Flag) (mixed : Bool) : List Text → Option Arguments
  | [] => some {}
  | argument :: rest =>
      if argument = "--" then some { others := rest }
      else if isOption argument then
        match flag? flags argument, rest with
        | some (flag, some value), rest =>
            (ofTexts? flags mixed rest).map fun arguments => arguments.withOption flag value
        | some (flag, none), value :: rest =>
            (ofTexts? flags mixed rest).map fun arguments => arguments.withOption flag value
        | _, _ => none
      else if mixed then
        (ofTexts? flags mixed rest).map fun arguments => arguments.withOther argument
      else some { others := argument :: rest }

end Arguments

def verbosityFlag : Flag := ⟨'v', "verbose"⟩

def configFlag : Flag := ⟨'c', "config"⟩

def snapshotFlag : Flag := ⟨'s', "snapshot"⟩

def outputFlag : Flag := ⟨'o', "output"⟩

/-- A job with one input and a snapshot. -/
def jobOf? (texts : List Text) : Option Job := do
  let arguments ← Arguments.ofTexts? [snapshotFlag, outputFlag] true texts
  let snapshot ← arguments.option? snapshotFlag
  match arguments.others with
  | [input] =>
      some {
        input := Path.ofText input
        snapshot := Path.ofText snapshot
        output := (arguments.option? outputFlag).map Path.ofText }
  | _ => none

def fragmentOf? (texts : List Text) : Option Path := do
  let arguments ← Arguments.ofTexts? [] true texts
  match arguments.others with
  | [fragment] => some (Path.ofText fragment)
  | _ => none

def ofName? (name : Text) (texts : List Text) : Option Command :=
  if name = "render" then (jobOf? texts).map .render
  else if name = "expand" then (jobOf? texts).map .expand
  else if name = "build" then (jobOf? texts).map .build
  else if name = "markers" then (fragmentOf? texts).map .markers
  else none

/-- A number from 0 to 3; 0 if none is given. -/
def verbosityOf? : Option Text → Option Int
  | none => some 0
  | some text => (Integer.read? text).filter fun number => 0 ≤ number && number ≤ 3

end Command

/-- The invocation in a list of arguments, if they make one. -/
def Invocation.ofTexts? (texts : List Text) : Option Invocation := do
  let arguments ← Command.Arguments.ofTexts? [Command.verbosityFlag, Command.configFlag] false texts
  let verbosity ← Command.verbosityOf? (arguments.option? Command.verbosityFlag)
  match arguments.others with
  | [] => none
  | name :: texts =>
      let command ← Command.ofName? name texts
      some {
        command
        verbosity
        config := (arguments.option? Command.configFlag).map Path.ofText }

end RichText
