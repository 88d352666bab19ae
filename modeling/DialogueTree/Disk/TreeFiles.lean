import DialogueTree.Disk.Basic
import DialogueTree.Library.Sources

/-!
# Tree files

The texts of a library on a disk: all files below a directory whose names end in `.tree.json`, and
a file `globals.json` right in it for the shared variables.

* `Disk.readTrees`: the texts of the trees by their paths in the directory.
* `Disk.readGlobals`: the text of the shared variables, if there is one.
-/

namespace DialogueTree

/-- How the names of tree files end (`TREE_FILE_SUFFIX`). -/
def treeFileEnding : String := ".tree.json"

/-- The name of the file with the shared variables (`GLOBALS_FILE_NAME`). -/
def globalsFileName : String := "globals.json"

/-- Why there are no texts: a file that cannot be read, or a directory without any tree file. -/
inductive TreeFilesError where
  | unreadable (path : Path)
  | none (directory : Path)
  deriving DecidableEq

namespace Disk

variable {m : Type → Type} [Monad m] [Disk m]

/-- The text of a file. -/
def readFile (p : Path) : ExceptT TreeFilesError m String := do
  match ← readText? p with
  | some text => return text
  | none => throw (.unreadable p)

/-- Reads files one by one and adds their texts under their paths. -/
def readAll (dir : Path) : List Path → Sources → ExceptT TreeFilesError m Sources
  | [], found => return found
  | relative :: rest, found => do
    let text ← readFile (Path.below dir relative)
    readAll dir rest (found.insert (Path.withSlashes relative) text)

/-- The tree files below a directory. -/
def treeFiles (dir : Path) : m (List Path) :=
  return (← filesBelow dir).filter fun relative => (Path.below dir relative).endsWith treeFileEnding

/-- The texts of the tree files below a directory (`read_trees_from_dir`). -/
def readTrees (dir : Path) : ExceptT TreeFilesError m Sources := do
  match ← treeFiles dir with
  | [] => throw (.none dir)
  | files => readAll dir files {}

/-- The text of the shared variables right in a directory (`read_globals_from_dir`). -/
def readGlobals (dir : Path) : ExceptT TreeFilesError m (Option String) := do
  let p := Path.join dir globalsFileName
  if ← isFile p then some <$> readFile p else return none

end Disk

end DialogueTree
