import DialogueTree.Player.CommandLine
import DialogueTree.Player.Input

/-!
# The program

Runs a command on the disk of the machine. A play reads its input line by line as it is typed.
-/

namespace DialogueTree

namespace Program

/-- Whether something stands at a path, and what. -/
def kind? (p : Path) : IO (Option DiskKind) := do
  if p.isEmpty then return none
  let full := (← IO.currentDir) / p
  if ← full.isDir then return some .directory
  if p.endsWith "/" then return none
  return if ← full.pathExists then some .file else none

/-- The text of a file. -/
def readText? (p : Path) : IO (Option String) := do
  try
    let bytes ← IO.FS.readBinFile p
    return String.fromUTF8? bytes
  catch _ => return none

/-- The paths of all files below a directory, seen from `root`; `seen` leads from there to the
directory. Links are not followed. Where the path is too long to ask, a file is taken to be
there. -/
partial def filesIn (root seen : Path) : IO (List Path) := do
  let here := (← IO.currentDir) / Path.below root seen
  let entries ← try here.readDir catch _ => pure #[]
  let found ← entries.toList.mapM fun e => do
    let path := if seen = "" then e.fileName else seen ++ "/" ++ e.fileName
    let type ← try some <$> (·.type) <$> e.path.symlinkMetadata catch _ => pure none
    match type with
    | some .dir => filesIn root path
    | some .file => return [path]
    | some _ => return []
    | none => return if Path.isValid (Path.below root path) then [] else [path]
  return found.flatten

/-- The paths of all files below a directory; a file has only itself below it. -/
def filesBelow (root : Path) : IO (List Path) := do
  match ← kind? root with
  | none => return []
  | some .file => return [""]
  | some .directory => filesIn root ""

/-- Makes the directory that a path lies in. -/
def makeParent (p : Path) : IO Bool := do
  try
    IO.FS.createDirAll (Path.parent p)
    return true
  catch _ => return false

/-- Writes a file. -/
def write (p : Path) (text : String) : IO Bool := do
  try
    IO.FS.writeFile p text
    return true
  catch _ => return false

instance : Disk IO where
  kind? := kind?
  readText? := readText?
  filesBelow := filesBelow
  makeParent := makeParent
  write := write
  workingDirectory := return (← IO.currentDir).toString

/-- Writes a text at once. -/
def say (text : String) : IO Unit := do
  let out ← IO.getStdout
  out.putStr text
  out.flush

/-- Writes the end of a command and gives its exit code. -/
def leave (written : String) (result : Except PlayerError Unit) : IO UInt32 := do
  let o := CommandLine.outcome written result
  say o.written
  return o.exit.toUInt32

/-- Reads lines until the play or the input ends. -/
partial def converse (setting : Play.Setting) (p : Play.Prompt) : IO UInt32 := do
  say Play.promptText
  let line ← try some <$> (← IO.getStdin).getLine catch _ => pure none
  if line == some "" then return 0
  let (lines, next) ← Play.answer setting p line
  say (Play.text lines)
  match next with
  | .prompt q => converse setting q
  | .finished => return 0
  | .failed e => leave "" (.error e)

/-- Plays a conversation. -/
def play (b : Beginning) (saveFile : Path) : IO UInt32 := do
  match ← (Play.begin b saveFile).run with
  | .error e => leave "" (.error e)
  | .ok (setting, s) =>
    let (lines, next) := Play.opening setting s
    say (Play.text lines)
    match next with
    | .prompt p => converse setting p
    | .finished => return 0
    | .failed e => leave "" (.error e)

end Program

end DialogueTree

open DialogueTree in
/-- Runs the command that the arguments give. -/
def main (args : List String) : IO UInt32 := do
  match Command.parse args with
  | .ok (.play b saveFile) => Program.play b saveFile
  | _ =>
    let o ← CommandLine.run args []
    Program.say o.written
    return o.exit.toUInt32
