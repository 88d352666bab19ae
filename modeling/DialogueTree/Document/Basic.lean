import DialogueTree.Node.Basic

/-!
# Tree documents

A dialogue tree as its author wrote it: nodes addressed by position, the declared variables and
the default way in.

* `Document.findStart?`: where a start id leads into the tree.
* `Document.teleportOut?`: where a jump ends.
-/

namespace DialogueTree

/-- A dialogue tree as authored (`TreeDocument`). -/
structure Document where
  name : String
  defaultStart : Int32 := 0
  declared : List Variable := []
  nodes : List Node := []
  deriving DecidableEq

namespace Document

/-- The node at a position (`TreeDocument.node`). -/
def node? (d : Document) (i : Nat) : Option Node := d.nodes[i]?

/-- The kind of the node at a position (`TreeDocument.node_type`). -/
def nodeType? (d : Document) (i : Nat) : Option NodeType := (d.node? i).map (·.type)

/-- How many nodes are of a kind (`TreeDocument.count`). -/
def count (d : Document) (t : NodeType) : Nat := d.nodes.countP (·.type == t)

/-- The first info node (`TreeDocument.info`). -/
def info? (d : Document) : Option Node := d.nodes.find? (·.type == .info)

/-- The speaker that the first info node declares (`TreeDocument.default_speaker`). -/
def defaultSpeaker (d : Document) : Speaker :=
  match d.info? with
  | some { content := .info speaker, .. } => speaker
  | _ => {}

/-- The first start node with an id (`TreeDocument.find_start`). -/
def findStart? (d : Document) (id : Int32) : Option Nat :=
  d.nodes.findIdx? fun n => n.content == .start id

/-- The ids of the start nodes (`TreeDocument.start_ids`). -/
def startIds (d : Document) : List Int32 :=
  d.nodes.filterMap fun n => match n.content with
    | .start id => some id
    | _ => none

/-- The first node where jumps with an id end (`TreeDocument.teleport_out`). -/
def teleportOut? (d : Document) (id : Int32) : Option Nat :=
  d.nodes.findIdx? fun n => n.content == .teleport false id

/-- Whether a node is a question (`is_branch`). -/
def isBranch (d : Document) (i : Nat) : Bool := d.nodeType? i == some .branch

/-- The text of the line that a node holds; other nodes have none (`dialogue_text`). -/
def lineText (d : Document) (i : Nat) : String :=
  match d.node? i with
  | some { content := .dialogue text _, .. } => text
  | _ => ""

end Document

end DialogueTree
