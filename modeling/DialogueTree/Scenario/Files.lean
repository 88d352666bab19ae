import DialogueTree.Disk.TreeFiles
import DialogueTree.Scenario.Run

/-!
# Test cases on a disk

A case is a file, and it is played against the tree files of a directory.

* `Scenario.readCase`: the case in a file.
* `Scenario.run`: what a case records in a directory.
* `Scenario.check`: whether a case records what it expects.
-/

namespace DialogueTree

/-- Tree files that cannot be read. -/
def ScenarioError.ofFiles : TreeFilesError → ScenarioError
  | .unreadable path => .unreadable path
  | .none dir => .noTrees dir

namespace Scenario

variable {m : Type → Type} [Monad m] [Disk m]

/-- The case in a file (`read_test_case`). -/
def readCase (p : Path) : ExceptT ScenarioError m TestCase := do
  let text ← (Disk.readFile p).adapt .ofFiles
  match TestCase.parse? text with
  | none => throw (.unparsable p)
  | some c => if c.schema = caseSchema then return c else throw (.schema c.schema)

/-- The library that the files of a directory make up. -/
def library (dir : Path) : ExceptT ScenarioError m Library := do
  let trees ← (Disk.readTrees dir).adapt .ofFiles
  let globals ← (Disk.readGlobals dir).adapt .ofFiles
  match Library.ofSources trees globals with
  | .ok l => return l
  | .error e => throw (.opening (.library e))

/-- What a case records in a directory. -/
def run (dir : Path) (c : TestCase) : ExceptT ScenarioError m RunReport := do
  ExceptT.mk (pure (c.run (← library dir)))

/-- Whether the case in a file records what it expects (`assert_case`). -/
def check (dir file : Path) : ExceptT ScenarioError m Unit := do
  let c ← readCase file
  ExceptT.mk (pure (c.compare (← run dir c)))

end Scenario

end DialogueTree
