import DialogueTree.Decimal.Reading
import DialogueTree.Document.Check
import DialogueTree.Node.Listing

/-!
# Editing documents

Wiring nodes, and adding and removing the choices of a question. Every edge is listed at both of
its ends, and the edges between two nodes stand in the same order in both lists, so the n-th one
in the one list is the n-th one in the other.

* `Document.connect`: a new edge.
* `Document.addChoice`, `Document.removeChoice`: the last choice of a question.
-/

namespace DialogueTree

/-- Why a document cannot be edited. -/
inductive EditError where
  | connectOutOfRange (source target count : Nat)
  | fewestChoices (branch : Nat)
  | linkOutOfRange (branch missing : Nat)
  | notBranch (node : Nat) (content : Content)
  | noNode (node : Nat)
  deriving DecidableEq

/-- What is told about a failed edit. -/
def EditError.report : EditError → Report
  | connectOutOfRange source target count =>
    ⟨"TREE_EDGE_OUT_OF_RANGE",
      s!"Cannot connect {source} -> {target}: tree has {count} nodes.", none⟩
  | fewestChoices branch =>
    ⟨"TREE_BRANCH_PINS",
      s!"Branch node {branch} already has the minimum of {fewestOutPins} choices.", branch⟩
  | linkOutOfRange branch missing =>
    ⟨"TREE_EDGE_OUT_OF_RANGE", s!"Branch node {branch} links to missing node {missing}.", branch⟩
  | notBranch node content =>
    ⟨"TREE_NODE_NOT_BRANCH", s!"Node {node} is {content.listing}, not a branch.", node⟩
  | noNode node => ⟨"TREE_EDGE_OUT_OF_RANGE", s!"Node {node} does not exist.", none⟩

namespace Document

/-- Changes the node at a position. -/
def modifyNode (d : Document) (i : Nat) (f : Node → Node) : Document :=
  { d with nodes := d.nodes.modify i f }

/-- Adds an edge from an exit slot of `source` to an entry slot of `target`
(`TreeDocument.connect`). -/
def connect (d : Document) (source sourceSlot target targetSlot : Nat) :
    Except EditError Document :=
  if source < d.nodes.length ∧ target < d.nodes.length then
    .ok <| (d.modifyNode source fun n => { n with outputs := n.outputs ++ [⟨target, sourceSlot⟩] })
      |>.modifyNode target fun n => { n with inputs := n.inputs ++ [⟨source, targetSlot⟩] }
  else .error (.connectOutOfRange source target d.nodes.length)

/-- The pins of the question at a position (`branch_pins`). -/
def branchPins (d : Document) (i : Nat) : Except EditError (Nat × Nat) :=
  match d.node? i with
  | none => .error (.noNode i)
  | some n => match n.content with
    | .branch inPins outPins => .ok (inPins, outPins)
    | other => .error (.notBranch i other)

/-- One more pin. Pins are counted in 64 bits: a count that is full starts again from zero, unless
sums are checked (see `Editing.onePinMore`). -/
def onePinMore (pins : Nat) : Nat := (pins + 1) % indexLimit

/-- Gives a question one more choice: an entry for its answer and an exit to follow it
(`TreeDocument.add_choice`). -/
def addChoice (d : Document) (branch : Nat) : Except EditError Document := do
  let (inPins, outPins) ← d.branchPins branch
  return d.modifyNode branch fun n =>
    { n with content := .branch (onePinMore inPins) (onePinMore outPins) }

/-- A link at one end of an edge, told by the node at the other end and by how many links to that
node stand before it. -/
structure Occurrence where
  node : Nat
  earlier : Nat
  deriving DecidableEq

/-- The occurrences of the links on a slot (`slot_edges`). Those with more links before them come
first, so that taking one out does not move those that follow. -/
def occurrences (links : List Link) (slot : Nat) : List Occurrence :=
  let found := links.zipIdx.filterMap fun (link, i) =>
    if link.slot = slot then some ⟨link.node, (links.take i).countP (·.node == link.node)⟩
    else none
  found.mergeSort fun a b => b.earlier ≤ a.earlier

/-- Takes out the link to `node` that has `earlier` links to it before it (`drop_mirror`). -/
def dropOccurrence (node : Nat) : Nat → List Link → List Link
  | _, [] => []
  | earlier, link :: links =>
    if link.node = node then
      match earlier with
      | 0 => links
      | earlier + 1 => link :: dropOccurrence node earlier links
    else link :: dropOccurrence node earlier links

/-- Takes the far ends of edges into `branch` out of the nodes they leave from. -/
def dropSources (d : Document) (branch : Nat) (edges : List Occurrence) : Document :=
  edges.foldl (fun d e => d.modifyNode e.node fun n =>
    { n with outputs := dropOccurrence branch e.earlier n.outputs }) d

/-- Takes the far ends of edges out of `branch` out of the nodes they lead to. -/
def dropTargets (d : Document) (branch : Nat) (edges : List Occurrence) : Document :=
  edges.foldl (fun d e => d.modifyNode e.node fun n =>
    { n with inputs := dropOccurrence branch e.earlier n.inputs }) d

/-- Takes the last choice from a question, with all edges on its entry and its exit
(`TreeDocument.remove_choice`). -/
def removeChoice (d : Document) (branch : Nat) : Except EditError Document := do
  let (inPins, outPins) ← d.branchPins branch
  if inPins ≤ fewestInPins ∨ outPins ≤ fewestOutPins then throw (.fewestChoices branch)
  let inSlot := inPins - 1
  let outSlot := outPins - 1
  let sources := occurrences ((d.node? branch).elim [] (·.inputs)) inSlot
  let targets := occurrences ((d.node? branch).elim [] (·.outputs)) outSlot
  match (sources ++ targets).find? (d.nodes.length ≤ ·.node) with
  | some edge => throw (.linkOutOfRange branch edge.node)
  | none =>
    let trimmed := d.modifyNode branch fun n =>
      { n with
        inputs := n.inputs.filter (·.slot != inSlot)
        outputs := n.outputs.filter (·.slot != outSlot) }
    return ((trimmed.dropSources branch sources).dropTargets branch targets).modifyNode branch
      fun n => { n with content := .branch inSlot outSlot }

end Document

end DialogueTree
