import DialogueTree.Player.Arguments
import DialogueTree.Player.Play

/-!
# The command line

A command from its arguments and its whole input to what it writes and its exit code.

* `CommandLine.run`: what a command writes, and how it exits.

What is written on being asked for help, or to refuse arguments, is left out.
-/

namespace DialogueTree

namespace CommandLine

/-- What a command has written, and how it exits. -/
structure Outcome where
  exit : Nat
  written : String
  deriving DecidableEq

/-- How a command exits when there is no command to run. -/
def refusalExit : Refusal → Nat
  | .help => 0
  | .invalid => 2

/-- The outcome of a command that has written something and then perhaps failed. -/
def outcome (written : String) : Except PlayerError Unit → Outcome
  | .ok () => ⟨0, written⟩
  | .error e => ⟨1, written ++ Play.text e.lines⟩

variable {m : Type → Type} [Monad m] [Disk m]

/-- The outcome of a command that writes lines only if it succeeds. -/
def ofLines (command : ExceptT PlayerError m (List String)) : m Outcome := do
  match ← command.run with
  | .ok lines => return outcome (Play.text lines) (.ok ())
  | .error e => return outcome "" (.error e)

/-- Runs a command on an input (`run`). -/
def runCommand (input : List (Option String)) : Command → m Outcome
  | .start b stateOut => ofLines (Agent.start b stateOut)
  | .next stateIn stateOut => ofLines (Agent.next stateIn stateOut)
  | .choose stateIn choice stateOut => ofLines (Agent.choose choice stateIn stateOut)
  | .play b saveFile => do
    let (written, result) ← Play.run b saveFile input
    return outcome written result

/-- Runs the command that arguments give on an input (`run_cli_from_args`). -/
def run (args : List String) (input : List (Option String)) : m Outcome :=
  match Command.parse args with
  | .ok c => runCommand input c
  | .error r => return ⟨refusalExit r, ""⟩

end CommandLine

end DialogueTree
