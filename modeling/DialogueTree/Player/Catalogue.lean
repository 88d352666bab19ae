import DialogueTree.Disk.TreeFiles
import DialogueTree.Player.Error

/-!
# Catalogues

The texts of a library together with the id that a saved state names it by. The id of a directory
of trees is its absolute path after a fixed word.

* `Catalogue.ofDirectory`: the texts in a directory that a command names.
* `Catalogue.ofId`: the texts that an id names, without shared variables.

Left out are two errors that the kinds of paths below a directory rule out: that a directory which
exists has no absolute path (`CLI_SOURCE_PATH`), and that a file found below it does not have its
path in front (`CLI_SOURCE_SCAN`).
-/

namespace DialogueTree

/-- Texts of a library with its id and a title (`LoadedLibrary`). -/
structure Catalogue where
  id : String
  title : String
  trees : Sources
  globals : Option String
  deriving DecidableEq

/-- What the ids of directories start with. -/
def directoryIdStart : String := "trees-dir:"

namespace Catalogue

/-- The id of a directory given by its absolute path (`make_trees_dir_library_id`). -/
def directoryId (dir : Path) : String := directoryIdStart ++ dir

/-- The directory that an id names. -/
def directoryOfId? (id : String) : Option Path :=
  if directoryIdStart.toList.isPrefixOf id.toList then
    some (String.ofList (id.toList.drop directoryIdStart.toList.length))
  else none

/-- The title of a directory: the name at the end of its path. -/
def directoryTitle (dir : Path) : String := "Trees " ++ (Path.fileName? dir).getD "unknown"

variable {m : Type → Type} [Monad m] [Disk m]

/-- The absolute path of a directory (`resolve_trees_dir`). -/
def resolve (dir : Path) : ExceptT PlayerError m Path := do
  let absolute := Path.join (← Disk.workingDirectory) dir
  match ← Disk.kind? absolute with
  | some .directory => return absolute
  | some .file => throw (.notDirectory absolute)
  | none => throw (.directoryNotFound absolute)

/-- Tree files that cannot be read. -/
def errorOfFiles : TreeFilesError → PlayerError
  | .unreadable path => .sourceUnreadable path
  | .none dir => .noTrees dir

/-- The text of a file with shared variables that a command names (`read_globals_file`). -/
def readNamedGlobals (p : Path) : ExceptT PlayerError m String := do
  if ← Disk.isFile p then (Disk.readFile p).adapt errorOfFiles
  else throw (.globalsNotFound p)

/-- The texts in a directory, with the shared variables from a file of their own or else from inside
the directory (`load_source_by_trees_dir`). -/
def ofDirectory (dir : Path) (globals : Option Path) : ExceptT PlayerError m Catalogue := do
  let root ← resolve dir
  let trees ← (Disk.readTrees root).adapt errorOfFiles
  let store ← match globals with
    | some p => some <$> readNamedGlobals p
    | none => (Disk.readGlobals root).adapt errorOfFiles
  return ⟨directoryId root, directoryTitle root, trees, store⟩

/-- The texts that an id names (`load_source_by_ref`). What the shared variables are is left to the
saved state. -/
def ofId (id : String) : ExceptT PlayerError m Catalogue := do
  match directoryOfId? id with
  | none => throw (.referenceInvalid id)
  | some dir =>
    let root ← resolve dir
    let trees ← (Disk.readTrees root).adapt errorOfFiles
    return ⟨directoryId root, "Trees " ++ dir, trees, none⟩

/-- The library that the texts make up (`build_library`). -/
def library (c : Catalogue) : Except PlayerError Library :=
  (Library.ofSources c.trees c.globals).mapError .ofLibrary

/-- A conversation from the start (`start_reader_for`). -/
def start (c : Catalogue) (tree : Option String) (id : Option Int32) :
    Except PlayerError Session := do
  match (← c.library).start tree id with
  | (.ok _, s) => return s
  | (.error e, _) => throw (.opening e)

/-- A conversation in the state of a snapshot (`resume_reader`). -/
def resume (c : Catalogue) (snap : Snapshot) : Except PlayerError Session := do
  match (← c.library).resume snap with
  | (.ok _, s) => return s
  | (.error e, _) => throw (.opening e)

end Catalogue

end DialogueTree
