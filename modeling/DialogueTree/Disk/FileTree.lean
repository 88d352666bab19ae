import DialogueTree.Disk.Basic

/-!
# File trees

A file system as a value: directories and files by the names that lead to them from the root. A
path is followed piece by piece; every piece but the last must be a directory. A path that is not
valid leads nowhere, and nothing is made or written at one.

* `FileTree.find?`: where a path leads.
* `FileTree.write?`: the tree after a file has been written.
* A `FileTree` as state is a `Disk`.
-/

namespace DialogueTree

/-- The names that lead to a file or directory from the root. -/
abbrev Location := List String

/-- What stands at a location. A file that is no text has none. -/
inductive Entry where
  | directory
  | file (text : Option String)
  deriving DecidableEq

/-- Files and directories by location, and where paths start that are not absolute. -/
structure FileTree where
  entries : List (Location × Entry) := []
  start : Location := []
  deriving DecidableEq

namespace FileTree

/-- What stands at a location. The root is always there. -/
def at? (t : FileTree) (l : Location) : Option Entry :=
  if l = [] then some .directory else t.entries.lookup l

/-- Whether a directory stands at a location. -/
def isDirectoryAt (t : FileTree) (l : Location) : Bool := t.at? l == some .directory

/-- Where a piece leads from a directory, whether something stands there or not. -/
def next (l : Location) (piece : String) : Location :=
  if Path.isIdle piece then l else if piece = ".." then l.dropLast else l ++ [piece]

/-- Where pieces lead from a location. -/
def follow? (t : FileTree) : Location → List String → Option Location
  | l, [] => if (t.at? l).isSome then some l else none
  | l, piece :: rest => if t.isDirectoryAt l then t.follow? (next l piece) rest else none

/-- Where a path starts. -/
def base (t : FileTree) (p : Path) : Location := if Path.isAbsolute p then [] else t.start

/-- Where a path leads. -/
def find? (t : FileTree) (p : Path) : Option Location :=
  if Path.isValid p then t.follow? (t.base p) (Path.pieces p) else none

/-- What a path leads to. -/
def kind? (t : FileTree) (p : Path) : Option DiskKind :=
  ((t.find? p).bind t.at?).map fun
    | .directory => .directory
    | .file _ => .file

/-- The text of the file that a path leads to. -/
def readText? (t : FileTree) (p : Path) : Option String :=
  match (t.find? p).bind t.at? with
  | some (.file text) => text
  | _ => none

/-- The paths of the files at and below the location of a path. A directory whose path is not valid
cannot be listed, but a file is found even if its own path is not valid. -/
def filesBelow (t : FileTree) (p : Path) : List Path :=
  match t.find? p with
  | none => []
  | some l => t.entries.filterMap fun (l', e) =>
    let names := l'.drop l.length
    match e with
    | .directory => none
    | .file _ =>
      if l.isPrefixOf l' && Path.isValid (Path.below p ("/".intercalate names.dropLast)) then
        some ("/".intercalate names)
      else none

/-- Puts an entry at a location; one that is there already is replaced. -/
def putInto (l : Location) (e : Entry) : List (Location × Entry) → List (Location × Entry)
  | [] => [(l, e)]
  | (l', e') :: rest => if l' = l then (l, e) :: rest else (l', e') :: putInto l e rest

/-- Puts an entry at a location. -/
def put (t : FileTree) (l : Location) (e : Entry) : FileTree :=
  { t with entries := putInto l e t.entries }

/-- Makes the directories that steps lead through from a location, as far as possible, and says
whether all of them are there. -/
def makeAll (t : FileTree) : Location → List String → Bool × FileTree
  | l, [] => (t.isDirectoryAt l, t)
  | l, step :: rest =>
    let there := next l step
    match t.at? there with
    | some .directory => t.makeAll there rest
    | some (.file _) => (false, t)
    | none =>
      if Path.isName step then (t.put there .directory).makeAll there rest else (false, t)

/-- Makes the directory that a path lies in. -/
def makeParent (t : FileTree) (p : Path) : Bool × FileTree :=
  let dir := Path.parent p
  if Path.isValid dir then t.makeAll (t.base dir) (Path.steps dir) else (false, t)

/-- The tree after a text has been written to a path. The last piece must be a name, and the
directory that it lies in must be there. -/
def write? (t : FileTree) (p : Path) (text : String) : Option FileTree := do
  guard (Path.isValid p)
  let name ← (Path.pieces p).getLast?
  guard (Path.isName name)
  let l ← t.follow? (t.base p) (Path.pieces p).dropLast
  guard (t.isDirectoryAt l && !t.isDirectoryAt (l ++ [name]))
  return t.put (l ++ [name]) (.file (some text))

instance : Disk (StateM FileTree) where
  kind? p := return (← get).kind? p
  readText? p := return (← get).readText? p
  filesBelow p := return (← get).filesBelow p
  makeParent p := modifyGet (·.makeParent p)
  write p text := modifyGet fun t => match t.write? p text with
    | some after => (true, after)
    | none => (false, t)
  workingDirectory := return "/" ++ "/".intercalate (← get).start

end FileTree

end DialogueTree
