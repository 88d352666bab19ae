import DialogueTree.Reader.Session

/-!
# Snapshots

All that is needed to go on with a conversation elsewhere: where the reader rests, the state of
its tree and the variables that all trees share.

* `Session.snapshot`: the state of a reader that is not idle.
* `Session.resume`: a reader in that state.
-/

namespace DialogueTree

/-- The form of snapshots that this library writes and reads (`READER_SNAPSHOT_SCHEMA`). -/
def snapshotSchema : String := "reader-snapshot.v1"

/-- The state of a conversation (`ReaderSnapshot`). -/
structure Snapshot where
  schema : String
  tree : String
  cursor : Nat
  defaultStart : Int32
  speaker : Speaker
  pending : Option Speaker
  speakerChanged : Bool
  locals : Store
  globals : Store
  deriving DecidableEq

namespace Session

/-- The state of the conversation (`TreeReader.snapshot`). -/
def snapshot (s : Session) : Except ReaderError Snapshot :=
  match s.loaded? with
  | none => .error .noTree
  | some (p, t) => .ok
    { schema := snapshotSchema
      tree := t.name
      cursor := p.cursor
      defaultStart := t.defaultStart
      speaker := t.speaker
      pending := p.pending
      speakerChanged := s.reader.speakerChanged
      locals := t.locals
      globals := s.library.globals }

/-- Why a tree cannot take a snapshot, if it cannot. -/
def refusal? (t : Tree) (snap : Snapshot) : Option ReaderError :=
  if snap.schema ≠ snapshotSchema then some (.snapshotSchema snap.schema snapshotSchema)
  else if t.name ≠ snap.tree then some (.snapshotTree snap.tree t.name)
  else if (t.document.nodeType? snap.cursor).any (·.isStop) then none
  else some (.snapshotCursor snap.cursor snap.tree)

/-- Puts the reader into the tree at a position of the library, in the state of a snapshot
(`TreeReader.resume`). The tree and the variables that all trees share are overwritten; where it
fails nothing changes. -/
def resume (s : Session) (tree : Nat) (snap : Snapshot) : Except ReaderError Unit × Session :=
  match s.library.tree? tree with
  | none => (.error .noTree, s)
  | some t => match refusal? t snap with
    | some e => (.error e, s)
    | none => (.ok (), s.unload.withScene tree snap.cursor
        { locals := snap.locals
          globals := snap.globals
          defaultStart := snap.defaultStart
          speaker := snap.speaker
          pending := snap.pending
          changed := snap.speakerChanged })

end Session

end DialogueTree
