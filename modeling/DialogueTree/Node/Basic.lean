import DialogueTree.Value

/-!
# Nodes

The nodes of a dialogue tree: what each kind of node holds, and the links on both sides of it.

* `NodeType.isStop`: the kinds a reader may rest on.
* `Node.inputAt?`, `Node.outputAt?`: the first link on a slot.
* `Node.onlyOutput?`: the way on from a node with a single exit.
-/

namespace DialogueTree

/-- Who speaks, and the picture shown for them (`Speaker`). -/
structure Speaker where
  name : String := ""
  sprite : Option String := none
  deriving DecidableEq

/-- One end of an edge, in the list of the node it belongs to: the node at the other end, and the
slot on this one (`Link`). -/
structure Link where
  node : Nat
  slot : Nat
  deriving DecidableEq

/-- The ways of comparing two values (`CompareOp`). -/
inductive Comparison where
  | equals
  | notEquals
  | greater
  | greaterOrEqual
  | less
  | lessOrEqual
  | and
  | or
  deriving DecidableEq

namespace Comparison

/-- The comparison with a code (`CompareOp.from_code`). -/
def ofCode? : Int → Option Comparison
  | 0 => some .equals
  | 1 => some .notEquals
  | 2 => some .greater
  | 3 => some .greaterOrEqual
  | 4 => some .less
  | 5 => some .lessOrEqual
  | 6 => some .and
  | 7 => some .or
  | _ => none

/-- Truth values have no order: on them the third and fourth comparison mean "and" and "or"
(`CompareOp.normalized_for`). -/
def forType : Comparison → ValueType → Comparison
  | .greater, .bool => .and
  | .greaterOrEqual, .bool => .or
  | c, _ => c

/-- A comparison as a formula (`CompareOp.formatted`). -/
def formula : Comparison → String
  | .equals => "A == B"
  | .notEquals => "A != B"
  | .greater => "A > B"
  | .greaterOrEqual => "A >= B"
  | .less => "A < B"
  | .lessOrEqual => "A <= B"
  | .and => "A && B"
  | .or => "A || B"

end Comparison

/-- The ways of changing a variable (`EditOp`). -/
inductive Change where
  | set
  | add
  | subtract
  | multiply
  | divide
  deriving DecidableEq

/-- The change with a code (`EditOp.from_code`). -/
def Change.ofCode? : Int → Option Change
  | 0 => some .set
  | 1 => some .add
  | 2 => some .subtract
  | 3 => some .multiply
  | 4 => some .divide
  | _ => none

/-- The kinds of node (`NodeType`). -/
inductive NodeType where
  | info
  | start
  | finish
  | dialogue
  | branch
  | variable
  | logic
  | edit
  | comment
  | newSpeaker
  | startChange
  | teleport
  deriving DecidableEq

namespace NodeType

/-- All kinds, in the order of their numbers. -/
def all : List NodeType :=
  [.info, .start, .finish, .dialogue, .branch, .variable, .logic, .edit, .comment, .newSpeaker,
    .startChange, .teleport]

/-- The name of a kind in messages. -/
def name : NodeType → String
  | .info => "INFO"
  | .start => "START"
  | .finish => "END"
  | .dialogue => "DIALOGUE"
  | .branch => "BRANCH"
  | .variable => "VARIABLE"
  | .logic => "LOGIC"
  | .edit => "EDIT_VARIABLE"
  | .comment => "COMMENT"
  | .newSpeaker => "NEW_SPEAKER"
  | .startChange => "START_CHANGE"
  | .teleport => "TELEPORT_FLOW"

/-- Whether a reader may rest on nodes of this kind (`NodeType.is_stoppable`). -/
def isStop : NodeType → Bool
  | .finish | .dialogue | .branch => true
  | _ => false

end NodeType

/-- What a node holds (`NodeKind`). -/
inductive Content where
  /-- The default speaker of the tree. -/
  | info (speaker : Speaker)
  /-- A way into the tree. -/
  | start (id : Int32)
  /-- The end of the conversation. -/
  | finish
  /-- A line, and who speaks it if not the current speaker. -/
  | dialogue (text : String) (override : Option Speaker)
  /-- A question with answers. -/
  | branch (inPins outPins : Nat)
  /-- A reference to the variable at a position of the local or the global store. -/
  | variable (position : Nat) (type : ValueType) (isGlobal : Bool)
  /-- A comparison of two operands. -/
  | logic (type : ValueType) (comparison : Comparison) (a b : Slots)
  /-- A change of a variable. -/
  | edit (type : ValueType) (change : Change) (b : Slots)
  /-- A note to the author. -/
  | comment (text : String)
  /-- A change of the speaker. -/
  | newSpeaker (speaker : Speaker)
  /-- A change of the default way into the tree. -/
  | startChange (id : Int32)
  /-- One end of a jump. -/
  | teleport (isIn : Bool) (id : Int32)
  deriving DecidableEq

/-- The kind of a content. -/
def Content.type : Content → NodeType
  | .info .. => .info
  | .start .. => .start
  | .finish => .finish
  | .dialogue .. => .dialogue
  | .branch .. => .branch
  | .variable .. => .variable
  | .logic .. => .logic
  | .edit .. => .edit
  | .comment .. => .comment
  | .newSpeaker .. => .newSpeaker
  | .startChange .. => .startChange
  | .teleport .. => .teleport

/-- A node with its links (`Node`). `index` is the position that it says it has. -/
structure Node where
  index : Nat
  content : Content
  inputs : List Link := []
  outputs : List Link := []
  deriving DecidableEq

namespace Node

/-- The kind of a node. -/
def type (n : Node) : NodeType := n.content.type

/-- The node behind the first link on a slot. -/
def linkedAt? (links : List Link) (slot : Nat) : Option Nat :=
  (links.find? (·.slot == slot)).map (·.node)

/-- The node that leads to an entry slot (`Node.input_at`). -/
def inputAt? (n : Node) (slot : Nat) : Option Nat := linkedAt? n.inputs slot

/-- The node that an exit slot leads to (`Node.output_at`). -/
def outputAt? (n : Node) (slot : Nat) : Option Nat := linkedAt? n.outputs slot

/-- The node that the only exit leads to (`Node.single_output`). -/
def onlyOutput? (n : Node) : Option Nat :=
  match n.outputs with
  | [link] => some link.node
  | _ => none

/-- Whether a node is a question. -/
def isBranch (n : Node) : Bool := n.type == .branch

end Node

end DialogueTree
