import DialogueTree.Document.Check
import DialogueTree.Library.Basic
import DialogueTree.Reader.Walk

/-!
# Readers

A reader is idle, or rests on a line, a question or an end of one tree of a library. It walks from
one place of rest to the next; what it changes on its way belongs to the library, so a `Session`
holds both.

* `Session.load`, `Session.unload`: entering and leaving a tree.
* `Session.advance`, `Session.choose`: walking on.
* `Session.jump`: another place of rest, without walking there.
-/

namespace DialogueTree

/-- Where a reader rests. A speaker waits to return only while it rests somewhere: leaving a tree
hands the speaker back first (`Session.unload`), so that an idle reader has nobody to keep. -/
structure Place where
  /-- The position of the tree in the library. -/
  tree : Nat
  cursor : Nat
  /-- The speaker to return to when the current line is left. -/
  pending : Option Speaker := none
  deriving DecidableEq

/-- A reader, idle where it has no place (`TreeReader`). -/
structure Reader where
  place : Option Place := none
  /-- Whether the speaker has changed since this was last asked. -/
  speakerChanged : Bool := false
  deriving DecidableEq

/-- A reader and the library that it reads from. -/
structure Session where
  library : Library
  reader : Reader := {}
  deriving DecidableEq

/-- What is told about a tree that has been loaded (`LoadReport`). Issues do not keep a reader from
it. -/
structure LoadReport where
  tree : String
  startId : Int32
  startNode : Nat
  resting : NodeType
  issues : List Issue
  deriving DecidableEq

namespace Document

/-- Where the walk from the start node with an id begins, and the start node. -/
def entry (d : Document) (id : Int32) : Except ReaderError (Nat × Nat) :=
  match d.findStart? id with
  | none => .error (.startNotFound d.name id)
  | some i => do
    match (← d.nodeAt i).onlyOutput? with
    | some first => return (i, first)
    | none => throw (.startNoSingleExit i)

/-- Where the walk from a place of rest with a single exit begins. -/
def onward (d : Document) (cursor : Nat) : Except ReaderError Nat := do
  let n ← d.nodeAt cursor
  match n.onlyOutput? with
  | some first => return first
  | none => throw (.noSingleExit n.type n.index n.outputs.length cursor)

/-- Where the walk from a question begins once it has been answered. -/
def answered (d : Document) (cursor choice : Nat) : Except ReaderError Nat := do
  let n ← d.nodeAt cursor
  if n.isBranch then
    match n.outputAt? choice with
    | some first => return first
    | none => throw (.choiceNotFound cursor choice)
  else throw (.notOnBranch n.type cursor)

/-- The kind of a node that a reader may be put on. -/
def resting (d : Document) (i : Nat) : Except ReaderError NodeType :=
  match d.nodeType? i with
  | none => .error (.nodeOutOfRange i d.name)
  | some type => if type.isStop then .ok type else .error (.cannotRest type i)

end Document

namespace Session

/-- Where the reader rests and the tree it rests in, unless it is idle. -/
def loaded? (s : Session) : Option (Place × Tree) := do
  let p ← s.reader.place
  return (p, ← s.library.tree? p.tree)

/-- The tree that the reader rests in. -/
def tree? (s : Session) : Option Tree := s.loaded?.map (·.2)

/-- The scene that a walk from a place in a tree starts with. -/
def scene (s : Session) (p : Place) (t : Tree) : Scene :=
  { locals := t.locals
    globals := s.library.globals
    defaultStart := t.defaultStart
    speaker := t.speaker
    pending := p.pending
    changed := s.reader.speakerChanged }

/-- The session with a reader at a place in a tree whose state, like that of the reader, is the
one of a scene. -/
def withScene (s : Session) (tree cursor : Nat) (after : Scene) : Session :=
  { library := { s.library.modifyTree tree fun t =>
        { t with
          locals := after.locals
          defaultStart := after.defaultStart
          speaker := after.speaker } with
      globals := after.globals }
    reader := ⟨some ⟨tree, cursor, after.pending⟩, after.changed⟩ }

/-- Walks from the node `first`. The cursor moves only where the walk comes to rest. -/
def settle (s : Session) (p : Place) (t : Tree) (first : Nat) :
    Except ReaderError NodeType × Session :=
  match t.document.settle p.cursor (s.scene p t) first with
  | (.ok r, after) => (.ok r.type, s.withScene p.tree r.cursor after)
  | (.error e, after) => (.error e, s.withScene p.tree p.cursor after)

/-! ## Entering and leaving -/

/-- Lets the reader leave its tree, whose standing speaker returns (`TreeReader.unload`). -/
def unload (s : Session) : Session :=
  { library := match s.reader.place with
      | some { tree, pending := some speaker, .. } =>
        s.library.modifyTree tree fun t => { t with speaker := speaker }
      | _ => s.library
    reader := { s.reader with place := none } }

/-- Loads the tree at a position of the library: by the start node with an id, or by the current
default one (`TreeReader.load_tree`). Where it fails the reader is left idle. -/
def load (s : Session) (tree : Nat) (start : Option Int32) :
    Except ReaderError LoadReport × Session :=
  let idle := s.unload
  match idle.library.tree? tree with
  | none => (.error .noTree, idle)
  | some t =>
    let id := start.getD t.defaultStart
    match t.document.entry id with
    | .error e => (.error e, idle)
    | .ok (startNode, first) =>
      let p : Place := { tree := tree, cursor := startNode }
      match settle { idle with reader := ⟨some p, false⟩ } p t first with
      | (.ok resting, after) =>
        (.ok ⟨t.name, id, startNode, resting, t.document.issues⟩, after)
      | (.error e, after) => (.error e, after.unload)

/-! ## Moving -/

/-- Follows the only exit of the node that the reader rests on (`TreeReader.advance`). -/
def advance (s : Session) : Except ReaderError NodeType × Session :=
  match s.loaded? with
  | none => (.error .noTree, s)
  | some (p, t) => match t.document.onward p.cursor with
    | .ok first => s.settle p t first
    | .error e => (.error e, s)

/-- Follows the exit of an answer from the question that the reader rests on
(`TreeReader.advance_choice`). -/
def choose (s : Session) (choice : Nat) : Except ReaderError NodeType × Session :=
  match s.loaded? with
  | none => (.error .noTree, s)
  | some (p, t) => match t.document.answered p.cursor choice with
    | .ok first => s.settle p t first
    | .error e => (.error e, s)

/-- Puts the reader on another node where it may rest (`TreeReader.jump_to`). Nothing on the way is
run. -/
def jump (s : Session) (i : Nat) : Except ReaderError NodeType × Session :=
  match s.loaded? with
  | none => (.error .noTree, s)
  | some (p, t) => match t.document.resting i with
    | .ok type => (.ok type, { s with reader.place := some { p with cursor := i } })
    | .error e => (.error e, s)

/-! ## Speaker and variables -/

/-- The standing or current speaker of the tree that the reader rests in. -/
def speaker? (s : Session) : Option Speaker := s.tree?.map (·.speaker)

/-- Changes the tree that the reader rests in. -/
def modifyTree (s : Session) (f : Tree → Tree) : Session :=
  match s.loaded? with
  | some (p, _) => { s with library := s.library.modifyTree p.tree f }
  | none => s

/-- Gives the tree another speaker (`TreeReader.change_speaker`). -/
def changeSpeaker (s : Session) (speaker : Speaker) : Except ReaderError Unit × Session :=
  match s.loaded? with
  | none => (.error .noTree, s)
  | some _ => (.ok (), s.modifyTree fun t => { t with speaker := speaker })

/-- Whether the speaker has changed since this was last asked (`TreeReader.did_speaker_change`). -/
def takeSpeakerChanged (s : Session) : Bool × Session :=
  (s.reader.speakerChanged, { s with reader.speakerChanged := false })

/-- The local variables, none for an idle reader. -/
def locals (s : Session) : Store := (s.tree?.map (·.locals)).getD {}

/-- Tries an operation on the local variables, and says whether it succeeded. -/
def tryLocals (s : Session) (f : Store → Option Store) : Bool × Session :=
  match s.tree?.bind fun t => f t.locals with
  | some store => (true, s.modifyTree fun t => { t with locals := store })
  | none => (false, s)

/-- Writes a value to the local variable with a name (`TreeReader.set_variable`). -/
def setVariable (s : Session) (name : String) (v : Value) : Bool × Session :=
  s.tryLocals (·.set? name v)

/-- Adds a local variable (`TreeReader.add_variable`). -/
def addVariable (s : Session) (v : Variable) : Bool × Session := s.tryLocals (·.insert? v)

/-- Takes out the local variable with a name (`TreeReader.remove_variable`). -/
def removeVariable (s : Session) (name : String) : Bool × Session := s.tryLocals (·.erase? name)

end Session

end DialogueTree
