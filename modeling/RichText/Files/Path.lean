import RichText.Text.Basic

/-!
Paths of files: a root, which is empty for relative paths, and the names that lead on from there.
-/

namespace RichText

structure Path where
  root : Text := []
  parts : List Text := []
  deriving DecidableEq, Repr

namespace Path

def isPart (part : Text) : Bool := !part.isEmpty && part ≠ "."

/-- Exactly two slashes at the start are a root of their own. -/
def rootOf (text : Text) : Text :=
  match text.takeWhile (· = '/') with
  | [] => []
  | ['/', '/'] => "//"
  | _ => "/"

/-- A path as it is written. Empty names and single points are dropped. -/
def ofText (text : Text) : Path := ⟨rootOf text, (Text.pieces (· = '/') text).filter isPart⟩

def isRooted (path : Path) : Bool := !path.root.isEmpty

def toText (path : Path) : Text :=
  let text := path.root ++ Text.join "/" path.parts
  if text.isEmpty then "." else text

/-- The last name. -/
def name (path : Path) : Text := path.parts.getLast?.getD []

def parent (path : Path) : Path := { path with parts := path.parts.dropLast }

/-- The path that another one leads to from here. -/
def join (path other : Path) : Path :=
  if other.isRooted then other else { path with parts := path.parts ++ other.parts }

/-- One name further on the way. Two points take back the name before them, if there is one. -/
def step (isRooted : Bool) (parts : List Text) (name : Text) : List Text :=
  if name ≠ ".." then parts ++ [name]
  else
    match parts.getLast? with
    | none => if isRooted then [] else [name]
    | some last => if last = ".." then parts ++ [name] else parts.dropLast

/-- The path to the same place that goes up nowhere but at its start. -/
def settled (path : Path) : Path := { path with parts := path.parts.foldl (step path.isRooted) [] }

end Path

end RichText
