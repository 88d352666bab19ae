import DialogueTree.Reader.Snapshot

/-!
# Opening a library

Making a reader for a library, at the start of a tree or in the state of a snapshot, and letting
several readers share one library.

* `Library.start`: a reader at the start of a tree.
* `Library.resume`: a reader in the state of a snapshot.
* `Audience.act`: what one of several readers does.
-/

namespace DialogueTree

/-- Why there is no reader: no such tree, or a tree that cannot be read. -/
inductive OpeningError where
  | library (e : LibraryError)
  | reader (e : ReaderError)
  deriving DecidableEq

/-- What is told about the error. -/
def OpeningError.report : OpeningError → Report
  | .library e => e.report
  | .reader e => e.report

namespace Library

/-- A new reader at the start of a tree, and the library after its walk (`start_reader`). -/
def start (l : Library) (tree : Option String) (start : Option Int32) :
    Except OpeningError LoadReport × Session :=
  match l.resolve tree with
  | .error e => (.error (.library e), ⟨l, {}⟩)
  | .ok i =>
    let (result, s) := Session.load ⟨l, {}⟩ i start
    (result.mapError .reader, s)

/-- A new reader in the state of a snapshot (`resume_reader`). -/
def resume (l : Library) (snap : Snapshot) : Except OpeningError Unit × Session :=
  match l.resolve (some snap.tree) with
  | .error e => (.error (.library e), ⟨l, {}⟩)
  | .ok i =>
    let (result, s) := Session.resume ⟨l, {}⟩ i snap
    (result.mapError .reader, s)

end Library

/-- Readers of one library, told apart by numbers. -/
structure Audience where
  library : Library
  readers : Nat → Reader := fun _ => {}

namespace Audience

/-- The session of one reader. -/
def session (a : Audience) (r : Nat) : Session := ⟨a.library, a.readers r⟩

/-- The readers after the session of one of them. -/
def withSession (a : Audience) (r : Nat) (s : Session) : Audience :=
  ⟨s.library, fun i => if i = r then s.reader else a.readers i⟩

/-- What one reader does, with the library that all of them share. -/
def act (a : Audience) (r : Nat) (f : Session → α × Session) : α × Audience :=
  let (result, s) := f (a.session r)
  (result, a.withSession r s)

end Audience

end DialogueTree
