import DialogueTree.Node.Listing
import DialogueTree.Report

/-!
# Errors of a reader

What can go wrong while a tree is read, and what is told about it.

* `ReaderError.report`: code, message and node.
-/

namespace DialogueTree

/-- Why a reader cannot do what it is asked for. A position is where a node stands in its tree, an
index is what the node itself says. -/
inductive ReaderError where
  | noTree
  | missingNode (position : Nat) (tree : String) (count : Nat)
  | nothingAtSlot (type : NodeType) (index slot : Nat)
  | noSingleExit (type : NodeType) (index exits cursor : Nat)
  | startNotFound (tree : String) (id : Int32)
  | startNoSingleExit (position : Nat)
  | notOnBranch (type : NodeType) (cursor : Nat)
  | choiceNotFound (cursor choice : Nat)
  | nodeOutOfRange (position : Nat) (tree : String)
  | cannotRest (type : NodeType) (position : Nat)
  | noOutput (type : NodeType) (cursor : Nat)
  | unexpectedNode (type : NodeType) (position : Nat)
  | teleportTargetMissing (id : Int32) (position : Nat)
  | infiniteLoop (hops : Nat) (tree : String) (cursor : Nat)
  | notLogic (index : Nat) (content : Content)
  | operandNotVariable (slot index : Nat) (content : Content)
  | unresolvedVariable (node : Nat) (isGlobal : Bool) (position : Nat)
  | divisionByZero (index : Nat)
  | snapshotSchema (found expected : String)
  | snapshotTree (found expected : String)
  | snapshotCursor (cursor : Nat) (tree : String)
  deriving DecidableEq

namespace ReaderError

/-- What is told about an error. -/
def report : ReaderError → Report
  | noTree => ⟨"READER_NO_TREE", "No tree is loaded.", none⟩
  | missingNode i tree count =>
    ⟨"READER_DANGLING_EDGE",
      s!"Edge points at node {i} but tree \"{tree}\" has {count} nodes.", i⟩
  | nothingAtSlot type i slot =>
    ⟨"READER_DANGLING_EDGE",
      s!"{type.name} node {i} has nothing connected to out slot {slot}.", i⟩
  | noSingleExit type i exits cursor =>
    ⟨"READER_NO_SINGLE_EXIT",
      s!"{type.name} node {i} has {exits} outbound edges; advance() needs exactly one.", cursor⟩
  | startNotFound tree id =>
    ⟨"READER_START_NOT_FOUND", s!"Tree \"{tree}\" has no Start node with id {id.toInt}.", none⟩
  | startNoSingleExit i =>
    ⟨"READER_NO_SINGLE_EXIT", s!"Start node {i} must have exactly one outbound edge.", i⟩
  | notOnBranch type cursor =>
    ⟨"READER_NOT_ON_BRANCH",
      s!"Choices can only be made on a Branch; cursor is on {type.name} node {cursor}.", cursor⟩
  | choiceNotFound cursor choice =>
    ⟨"READER_CHOICE_NOT_FOUND",
      s!"Branch node {cursor} has nothing wired to choice {choice}.", cursor⟩
  | nodeOutOfRange i tree =>
    ⟨"READER_NODE_OUT_OF_RANGE", s!"Node {i} does not exist in tree \"{tree}\".", none⟩
  | cannotRest type i => ⟨"READER_NOT_STOPPABLE", s!"Cannot rest on {type.name} node {i}.", i⟩
  | noOutput type cursor =>
    ⟨"READER_NOT_STOPPABLE",
      s!"Cursor is on {type.name} node {cursor}, which has no output.", cursor⟩
  | unexpectedNode type i =>
    ⟨"READER_UNEXPECTED_NODE", s!"Traversal reached {type.name} node {i}.", i⟩
  | notLogic i content =>
    ⟨"READER_UNEXPECTED_NODE", s!"Node {i} is not a logic node: {content.listing}.", i⟩
  | teleportTargetMissing id i =>
    ⟨"READER_TELEPORT_TARGET_MISSING",
      s!"No out TeleportFlow node carries teleport id {id.toInt}.", i⟩
  | infiniteLoop hops tree cursor =>
    ⟨"READER_INFINITE_LOOP",
      s!"Visited {hops} nodes in tree \"{tree}\" without reaching a stoppable node.", cursor⟩
  | operandNotVariable slot i content =>
    ⟨"EVAL_OPERAND_NOT_VARIABLE",
      s!"Operand slot {slot} of node {i} is fed by a non-variable node ({content.listing}).", i⟩
  | unresolvedVariable node isGlobal position =>
    let scope := if isGlobal then "global" else "local"
    ⟨"EVAL_UNRESOLVED_VARIABLE",
      s!"Variable node {node} points at {scope} variable #{position}, which does not exist.",
      node⟩
  | divisionByZero i =>
    ⟨"EVAL_DIVIDE_BY_ZERO", s!"Integer division by zero in EditVariable node {i}.", i⟩
  | snapshotSchema found expected =>
    ⟨"SNAPSHOT_SCHEMA", s!"Unsupported snapshot schema \"{found}\"; expected \"{expected}\".",
      none⟩
  | snapshotTree found expected =>
    ⟨"SNAPSHOT_TREE_MISMATCH", s!"Snapshot belongs to tree \"{found}\", not \"{expected}\".",
      none⟩
  | snapshotCursor cursor tree =>
    ⟨"SNAPSHOT_CURSOR_INVALID",
      s!"Snapshot cursor {cursor} is not a stoppable node of \"{tree}\".", cursor⟩

end ReaderError

end DialogueTree
