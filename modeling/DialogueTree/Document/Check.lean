import DialogueTree.Document.Basic
import DialogueTree.Report

/-!
# Checking documents

What an author has to mend in a tree. Issues of the whole tree come first, then those of each node
in order; they do not keep a reader from walking the tree.

* `Document.issues`: all issues of a document.
* `Document.linkIssues`: the links of a node that lead nowhere or are not listed at their other
  end.
-/

namespace DialogueTree

/-- Something wrong with a document. Positions are those of the node to mend. -/
inductive Issue where
  | noInfo (tree : String)
  | multipleInfo (tree : String) (count : Nat)
  | noStart (tree : String)
  | noFinish (tree : String)
  | indexMismatch (position declared : Nat)
  | edgesOnPassive (position : Nat) (type : NodeType)
  | branchPins (position inPins outPins : Nat)
  | startHasInput (position : Nat)
  | teleportHasOutput (position : Nat)
  | teleportHasInput (position : Nat)
  | teleportDuplicate (position first : Nat) (id : Int32)
  | missingExit (position : Nat) (type : NodeType)
  | edgeOutOfRange (position target : Nat)
  | edgeOneSided (position : Nat) (outbound : Bool) (target : Nat)
  deriving DecidableEq

namespace Issue

/-- What is told about an issue. -/
def report : Issue → Report
  | noInfo tree => ⟨"TREE_NO_INFO", s!"Tree \"{tree}\" has no Info node.", none⟩
  | multipleInfo tree count =>
    ⟨"TREE_MULTIPLE_INFO", s!"Tree \"{tree}\" has {count} Info nodes.", none⟩
  | noStart tree => ⟨"TREE_NO_START", s!"Tree \"{tree}\" has no Start node.", none⟩
  | noFinish tree => ⟨"TREE_NO_END", s!"Tree \"{tree}\" has no End node.", none⟩
  | indexMismatch i declared =>
    ⟨"TREE_INDEX_MISMATCH", s!"Node at position {i} declares index {declared}.", i⟩
  | edgesOnPassive i type =>
    ⟨"TREE_EDGES_ON_PASSIVE_NODE", s!"{type.name} node {i} must not have edges.", i⟩
  | branchPins i inPins outPins =>
    ⟨"TREE_BRANCH_PINS",
      s!"Branch node {i} has {inPins} in / {outPins} out pins; expected one question pin " ++
        "plus one pin per choice on each side.", i⟩
  | startHasInput i =>
    ⟨"TREE_START_HAS_INPUT", s!"Start node {i} must not have inbound edges.", i⟩
  | teleportHasOutput i =>
    ⟨"TREE_TELEPORT_EDGES", s!"Teleport in-endpoint {i} must not have outbound edges.", i⟩
  | teleportHasInput i =>
    ⟨"TREE_TELEPORT_EDGES", s!"Teleport out-endpoint {i} must not have inbound edges.", i⟩
  | teleportDuplicate i first id =>
    ⟨"TREE_TELEPORT_DUPLICATE",
      s!"Teleport id {id.toInt} has out-endpoints at nodes {first} and {i}.", i⟩
  | missingExit i type =>
    ⟨"TREE_MISSING_EXIT",
      s!"{type.name} node {i} needs both a true (slot 0) and a false (slot 1) exit.", i⟩
  | edgeOutOfRange i target =>
    ⟨"TREE_EDGE_OUT_OF_RANGE", s!"Node {i} links to missing node {target}.", i⟩
  | edgeOneSided i outbound target =>
    let arrow := if outbound then "->" else "<-"
    ⟨"TREE_EDGE_NOT_MIRRORED",
      s!"Edge {i} {arrow} {target} has no matching entry on node {target}.", i⟩

end Issue

/-- The fewest entry pins of a question: one for its text and one for each of two answers
(`BRANCH_MIN_IN_PINS`). -/
def fewestInPins : Nat := 3

/-- The fewest exit pins of a question (`BRANCH_MIN_OUT_PINS`). -/
def fewestOutPins : Nat := 2

namespace Document

/-- Issues of the tree as a whole. -/
def treeIssues (d : Document) : List Issue :=
  (match d.count .info with
    | 0 => [.noInfo d.name]
    | 1 => []
    | many => [.multipleInfo d.name many]) ++
  (if d.count .start = 0 then [.noStart d.name] else []) ++
  (if d.count .finish = 0 then [.noFinish d.name] else [])

/-- A node must declare its own position. -/
def indexIssues (i : Nat) (n : Node) : List Issue :=
  if n.index ≠ i then [.indexMismatch i n.index] else []

/-- Nodes that no walk passes have no links. -/
def passiveIssues (i : Nat) (n : Node) : List Issue :=
  if (n.type = .info ∨ n.type = .comment) ∧ ¬(n.inputs = [] ∧ n.outputs = []) then
    [.edgesOnPassive i n.type]
  else []

/-- A question has an entry for its text, and an entry and an exit for each of its answers. -/
def pinIssues (i : Nat) (n : Node) : List Issue :=
  match n.content with
  | .branch inPins outPins =>
    -- In 64 bits the sum may be zero, which is no count of entries that is allowed.
    if inPins < fewestInPins ∨ outPins < fewestOutPins ∨ inPins ≠ outPins + 1 then
      [.branchPins i inPins outPins]
    else []
  | _ => []

/-- Which sides of a node must have links and which must not. -/
def sideIssues (d : Document) (i : Nat) (n : Node) : List Issue :=
  match n.content with
  | .start _ => if n.inputs ≠ [] then [.startHasInput i] else []
  | .teleport true _ => if n.outputs ≠ [] then [.teleportHasOutput i] else []
  | .teleport false id =>
    (if n.inputs ≠ [] then [.teleportHasInput i] else []) ++
    (match d.teleportOut? id with
      | some first => if first ≠ i then [.teleportDuplicate i first id] else []
      | none => [])
  | .logic .. | .edit .. =>
    if n.outputAt? 0 = none ∨ n.outputAt? 1 = none then [.missingExit i n.type] else []
  | _ => []

/-- Links must lead to a node that lists this one on its other side (`check_links`). -/
def linkIssues (d : Document) (i : Nat) (outbound : Bool) (links : List Link) : List Issue :=
  links.flatMap fun link => match d.node? link.node with
    | none => [.edgeOutOfRange i link.node]
    | some other =>
      if (if outbound then other.inputs else other.outputs).any (·.node == i) then []
      else [.edgeOneSided i outbound link.node]

/-- The issues of one node. -/
def nodeIssues (d : Document) (i : Nat) (n : Node) : List Issue :=
  indexIssues i n ++ passiveIssues i n ++ pinIssues i n ++ d.sideIssues i n ++
    d.linkIssues i true n.outputs ++ d.linkIssues i false n.inputs

/-- All issues of a document (`TreeDocument.validate`). A document without any is well formed. -/
def issues (d : Document) : List Issue :=
  d.treeIssues ++ d.nodes.zipIdx.flatMap fun (n, i) => d.nodeIssues i n

end Document

end DialogueTree
