import DialogueTree.Reader.Scene

/-!
# Walks

From a node that a reader leaves to the next one where it may rest. Each visit first lets the
speaker of the line that is left return, then does what the node says and names the next node. A
walk makes at most `hopLimit` visits.

* `Document.visit`: one visit.
* `Document.walk`: visits up to a limit.
* `Document.settle`: a walk that leaves the speaker alone where it fails.
-/

namespace DialogueTree

/-- The most visits in one walk (`MAX_SETTLE_HOPS`). -/
def hopLimit : Nat := 100

/-- Where a reader comes to rest. -/
structure Rest where
  cursor : Nat
  type : NodeType
  deriving DecidableEq

/-- What a visit leads to: another node, or rest. -/
inductive Step where
  | pass (next : Nat)
  | rest (r : Rest)
  deriving DecidableEq

namespace Scene

/-- The scene when the line that the reader rested on has been left. -/
def revert (s : Scene) : Scene :=
  match s.pending with
  | some speaker => { s with speaker := speaker, pending := none, changed := true }
  | none => s

/-- The scene when a line is reached, which may have a speaker of its own. -/
def override (s : Scene) : Option Speaker → Scene
  | some speaker => { s with speaker := speaker, pending := some s.speaker, changed := true }
  | none => s

/-- The scene with a new standing speaker. -/
def announce (s : Scene) (speaker : Speaker) : Scene :=
  { s with speaker := speaker, changed := true }

end Scene

namespace Document

/-- Where a reader rests when it reaches a node: there, unless it is a line or an end whose first
exit leads to a question, which then takes its place (`rest_on`). -/
def restAt (d : Document) (n : Node) (i : Nat) : Rest :=
  match n.isBranch, n.outputs with
  | false, link :: _ => if d.isBranch link.node then ⟨link.node, .branch⟩ else ⟨i, n.type⟩
  | _, _ => ⟨i, n.type⟩

/-- The node behind the far end of a jump. -/
def teleportExit (d : Document) (i : Nat) (id : Int32) : Except ReaderError Nat := do
  match d.teleportOut? id with
  | none => throw (.teleportTargetMissing id i)
  | some target => (← d.nodeAt target).exit 0

/-- What a node does when it is reached, and where it leads. -/
def enter (d : Document) (s : Scene) (i : Nat) (n : Node) : Except ReaderError Step × Scene :=
  match n.content with
  | .finish | .branch .. => (.ok (.rest (d.restAt n i)), s)
  | .dialogue _ speaker => (.ok (.rest (d.restAt n i)), s.override speaker)
  | .logic .. | .edit .. | .startChange _ =>
    match s.solve d n with
    | .ok (after, passed) => (.pass <$> n.exit (if passed then 0 else 1), after)
    | .error e => (.error e, s)
  | .newSpeaker speaker => (.pass <$> n.exit 0, s.announce speaker)
  | .teleport true id => (.pass <$> d.teleportExit i id, s)
  | .teleport false _ => (.pass <$> n.exit 0, s)
  | .info _ | .start _ | .variable .. | .comment _ => (.error (.unexpectedNode n.type i), s)

/-- One visit of the node at a position. -/
def visit (d : Document) (s : Scene) (i : Nat) : Except ReaderError Step × Scene :=
  match d.nodeAt i with
  | .ok n => d.enter s.revert i n
  | .error e => (.error e, s.revert)

/-- At most `hops` visits (`walk`). `cursor` is where the reader has come from. -/
def walk (d : Document) (cursor : Nat) : Nat → Scene → Nat → Except ReaderError Rest × Scene
  | 0, s, _ => (.error (.infiniteLoop hopLimit d.name cursor), s)
  | hops + 1, s, i =>
    match d.visit s i with
    | (.ok (.pass next), after) => d.walk cursor hops after next
    | (.ok (.rest r), after) => (.ok r, after)
    | (.error e, after) => (.error e, after)

/-- A walk from a node to a place of rest (`settle`). Where it fails the speakers are those from
before it; what it has written to variables stays. -/
def settle (d : Document) (cursor : Nat) (s : Scene) (first : Nat) :
    Except ReaderError Rest × Scene :=
  match d.walk cursor hopLimit s first with
  | (.ok r, after) => (.ok r, after)
  | (.error e, after) =>
    (.error e, { after with speaker := s.speaker, pending := s.pending, changed := s.changed })

end Document

end DialogueTree
