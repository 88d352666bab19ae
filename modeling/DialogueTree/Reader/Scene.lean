import DialogueTree.Library.Tree
import DialogueTree.Node.Arithmetic
import DialogueTree.Reader.Error

/-!
# Scenes

What a walk through a tree reads and changes: the variables of the tree and those that all trees
share, the default way in, the standing speaker and the speaker who returns when the current line
is left. Nodes that compute are evaluated in a scene.

* `Scene.logic`: the outcome of a comparison node, which changes nothing.
* `Scene.edit`: the scene after a change of a variable.
* `Scene.solve`: either, and a change of the default way in.
-/

namespace DialogueTree

/-- The state that a walk reads and changes. -/
structure Scene where
  locals : Store
  globals : Store
  defaultStart : Int32
  speaker : Speaker
  /-- The speaker to return to when the line that the reader rests on is left. -/
  pending : Option Speaker
  /-- Whether the speaker has changed since this was last asked. -/
  changed : Bool
  deriving DecidableEq

/-! ## Ways through a document -/

namespace Document

/-- The node at a position that an edge leads to (`node_at`). -/
def nodeAt (d : Document) (i : Nat) : Except ReaderError Node :=
  match d.node? i with
  | some n => .ok n
  | none => .error (.missingNode i d.name d.nodes.length)

end Document

/-- The node that an exit slot leads to (`output_slot`). -/
def Node.exit (n : Node) (slot : Nat) : Except ReaderError Nat :=
  match n.outputAt? slot with
  | some next => .ok next
  | none => .error (.nothingAtSlot n.type n.index slot)

/-! ## Operands -/

/-- The entry slot of the first operand, which is also the variable that an edit changes. -/
def operandSlotA : Nat := 1

/-- The entry slot of the second operand. -/
def operandSlotB : Nat := 2

/-- A variable that a variable node stands for (`WiredVariable`). -/
structure Reference where
  node : Nat
  position : Nat
  isGlobal : Bool
  deriving DecidableEq

/-- Why a reference leads nowhere (`unresolved`). -/
def Reference.error (r : Reference) : ReaderError :=
  .unresolvedVariable r.node r.isGlobal r.position

/-- The variable wired to an operand slot of a node, if one is wired (`wired_operand`). -/
def Document.wired (d : Document) (n : Node) (slot : Nat) :
    Except ReaderError (Option Reference) :=
  match n.inputAt? slot with
  | none => .ok none
  | some source =>
    match d.nodeAt source with
    | .error e => .error e
    | .ok other => match other.content with
      | .variable position _ isGlobal => .ok (some ⟨source, position, isGlobal⟩)
      | content => .error (.operandNotVariable slot n.index content)

namespace Scene

/-- The store that a reference points into. -/
def store (s : Scene) (isGlobal : Bool) : Store := if isGlobal then s.globals else s.locals

/-- A scene with one of its stores replaced. -/
def withStore (s : Scene) (isGlobal : Bool) (store : Store) : Scene :=
  if isGlobal then { s with globals := store } else { s with locals := store }

/-- The value that a reference stands for (`read_wired`). -/
def read (s : Scene) (r : Reference) (type : ValueType) : Except ReaderError Value :=
  match (s.store r.isGlobal).at? r.position with
  | some v => .ok (v.value type)
  | none => .error r.error

/-- A scene after writing to the variable that a reference stands for (`write_wired`). -/
def write (s : Scene) (r : Reference) (v : Value) : Except ReaderError Scene :=
  match (s.store r.isGlobal).assignAt? r.position v with
  | some store => .ok (s.withStore r.isGlobal store)
  | none => .error r.error

/-- The value of an operand: that of the variable wired to its slot, or else the literal one
(`operand_value`). -/
def operand (s : Scene) (d : Document) (n : Node) (slot : Nat) (type : ValueType)
    (literal : Slots) : Except ReaderError Value := do
  match ← d.wired n slot with
  | some r => s.read r type
  | none => return literal.get type

/-! ## Evaluation -/

/-- Whether the comparison of a node holds. -/
def logic (s : Scene) (d : Document) (n : Node) (type : ValueType) (c : Comparison)
    (a b : Slots) : Except ReaderError Bool := do
  let left ← s.operand d n operandSlotA type a
  let right ← s.operand d n operandSlotB type b
  return (c.forType type).holds left right

/-- The scene after the change of a variable, or nothing where no variable is wired or the change
means nothing for its type. -/
def edit (s : Scene) (d : Document) (n : Node) (type : ValueType) (c : Change) (b : Slots) :
    Except ReaderError (Option Scene) := do
  match ← d.wired n operandSlotA with
  | none => return none
  | some target =>
    let operand ← s.operand d n operandSlotB type b
    let current ← s.read target type
    match c.apply current operand with
    | .updated v => some <$> s.write target v
    | .undefined => return none
    | .divisionByZero => throw (.divisionByZero n.index)

/-- Evaluates a node that computes: the scene after it, and whether it leaves by its first exit
(`solve_logic`). Where it fails nothing has changed. No walk comes here with a node that does not
compute. -/
def solve (s : Scene) (d : Document) (n : Node) : Except ReaderError (Scene × Bool) :=
  match n.content with
  | .logic type c a b => do
    let passed ← s.logic d n type c a b
    return (s, passed)
  | .edit type c b => do
    match ← s.edit d n type c b with
    | some after => return (after, true)
    | none => return (s, false)
  | .startChange id => .ok ({ s with defaultStart := id }, true)
  | content => .error (.notLogic n.index content)

end Scene

end DialogueTree
