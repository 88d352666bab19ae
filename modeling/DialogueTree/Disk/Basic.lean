import DialogueTree.Disk.Path

/-!
# Disks

What the library asks of a file system. Programs are written for any disk, so that what they read
and write can be reasoned about on a `FileTree` and done by the outer layer.

* `Disk`: the questions and orders.
* `Disk.isFile`, `Disk.isDirectory`: what a path leads to.
-/

namespace DialogueTree

/-- What a path leads to. -/
inductive DiskKind where
  | file
  | directory
  deriving DecidableEq

/-- A file system as far as the library uses it. -/
class Disk (m : Type → Type) where
  /-- What a path leads to, if to anything. -/
  kind? : Path → m (Option DiskKind)
  /-- The text of a file, unless it cannot be read as a text. -/
  readText? : Path → m (Option String)
  /-- The paths of all files below a directory, seen from it. A file has only itself below it,
  under the empty path. What is in a directory that cannot be listed is left out. -/
  filesBelow : Path → m (List Path)
  /-- Makes the directory that a path lies in, with all those that it lies in, and says whether it
  is there. -/
  makeParent : Path → m Bool
  /-- Writes a file, and says whether it has been written. -/
  write : Path → String → m Bool
  /-- The directory that paths which are not absolute start from. -/
  workingDirectory : m Path

namespace Disk

variable {m : Type → Type} [Monad m] [Disk m]

/-- Every program that may fail asks the disk of the program without failure. -/
instance {ε : Type} : Disk (ExceptT ε m) where
  kind? p := ExceptT.lift (kind? p)
  readText? p := ExceptT.lift (readText? p)
  filesBelow p := ExceptT.lift (filesBelow p)
  makeParent p := ExceptT.lift (makeParent p)
  write p s := ExceptT.lift (write p s)
  workingDirectory := ExceptT.lift workingDirectory

/-- Whether a path leads to a file. -/
def isFile (p : Path) : m Bool := return (← kind? p) == some .file

/-- Whether a path leads to a directory. -/
def isDirectory (p : Path) : m Bool := return (← kind? p) == some .directory

/-- Whether a path leads anywhere. -/
def isThere (p : Path) : m Bool := return (← kind? p).isSome

end Disk

end DialogueTree
