import DialogueTree.Player.Announcement
import DialogueTree.Player.Save

/-!
# Stop by stop

A conversation led by another program: every command takes it to the next stop, announces the stop
and, unless the conversation is over, saves the state for the command that follows.

* `Agent.start`, `Agent.next`, `Agent.choose`: the commands.
-/

namespace DialogueTree

/-- Which conversation to start. -/
structure Beginning where
  directory : Path
  tree : Option String := none
  start : Option Int32 := none
  globals : Option Path := none
  deriving DecidableEq

namespace Agent

variable {m : Type → Type} [Monad m] [Disk m]

/-- Announces the stop where a conversation rests, and saves the state unless it is over
(`emit_stop_with_saved_state`). -/
def announce (s : Session) (first : Bool) (libraryId : String) (file : Path) :
    ExceptT PlayerError m (List String) := do
  match s.stop first with
  | (.error e, _) => throw (.ofReader e)
  | (.ok stop, after) =>
    if stop.output.isFinish then return stop.lines none
    let save ← ExceptT.mk (pure (Save.ofSession libraryId after))
    save.write file
    return stop.lines (some file)

/-- Starts a conversation (`run_start`). -/
def start (b : Beginning) (file : Path) : ExceptT PlayerError m (List String) := do
  let c ← Catalogue.ofDirectory b.directory b.globals
  let s ← ExceptT.mk (pure (c.start b.tree b.start))
  announce s true c.id file

/-- Takes a saved conversation on (`run_state_transition`). -/
def move (go : Session → Except ReaderError NodeType × Session) (stateIn stateOut : Path) :
    ExceptT PlayerError m (List String) := do
  let save ← Save.read stateIn
  let c ← Catalogue.ofId save.libraryId
  let s ← ExceptT.mk (pure (c.resume save.snapshot))
  match go s with
  | (.error e, _) => throw (.ofReader e)
  | (.ok _, after) => announce after false save.libraryId stateOut

/-- Goes on from a line (`run_next`). -/
def next (stateIn stateOut : Path) : ExceptT PlayerError m (List String) :=
  move Session.advance stateIn stateOut

/-- Answers a question (`run_choose`). -/
def choose (choice : Nat) (stateIn stateOut : Path) : ExceptT PlayerError m (List String) :=
  move (·.choose choice) stateIn stateOut

end Agent

end DialogueTree
