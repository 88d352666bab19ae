/-!
# Reports

What is told about an error: a code, a message, and the node where it arose if there is one. Each
kind of error of the library says what its report is.
-/

namespace DialogueTree

/-- A code, a message, and the node concerned (`DialogueError`). -/
structure Report where
  code : String
  message : String
  node : Option Nat := none
  deriving DecidableEq

/-- Code and message in one line. -/
def Report.line (r : Report) : String := r.code ++ ": " ++ r.message

end DialogueTree
