import RichText.Files.Path
import RichText.Text.Lines
import RichText.Text.Utf8

/-!
The files that a run can see. Folders exist where something lies in them; relative paths start at the
folder of the run. There are no links, and no two paths lead to one place unless they go up on the way.
-/

namespace RichText

inductive Item
  | file (bytes : List UInt8)
  | folder

structure Files where
  items : List (Path × Item) := []

namespace Files

/-- What lies at the end of names that lead on from the folder of the run. -/
def itemAt (files : Files) (parts : List Text) : Option Item :=
  match files.items.lookup ⟨[], parts⟩ with
  | some item => some item
  | none =>
      let isAround (path : Path) : Bool := !path.isRooted && parts.isPrefixOf path.parts
      if parts.isEmpty || files.items.any fun (path, _) => isAround path then some .folder else none

def isFolder (files : Files) (parts : List Text) : Bool :=
  match files.itemAt parts with
  | some .folder => true
  | _ => false

/-- Follows names from a folder. Two points lead one folder up. -/
def follow (files : Files) (folder : List Text) : List Text → Option Item
  | [] => files.itemAt folder
  | name :: names =>
      if !files.isFolder folder then none
      else if name = ".." then
        if folder.isEmpty then none else files.follow folder.dropLast names
      else files.follow (folder ++ [name]) names

/-- What lies at a path: what is listed there, or what the names of a relative path lead to. -/
def item? (files : Files) (path : Path) : Option Item :=
  match files.items.lookup path with
  | some item => some item
  | none =>
      if path.isRooted then if path.parts.isEmpty then some .folder else none
      else files.follow [] path.parts

def has (files : Files) (path : Path) : Bool := (files.item? path).isSome

/-- The files with a text at a path, and at every other path to the same place. -/
def write (files : Files) (path : Path) (text : Text) : Files :=
  let written := Item.file (Text.toBytes text)
  let others := files.items.map fun (other, item) =>
    (other, if other.settled = path.settled then written else item)
  ⟨(path, written) :: (path.settled, written) :: others⟩

/-- The text of bytes, with every line end as a line feed. -/
def textOf (bytes : List UInt8) : Except Text.Utf8.Fault Text :=
  (Text.Utf8.decode bytes).map Text.withLineFeeds

end Files

end RichText
