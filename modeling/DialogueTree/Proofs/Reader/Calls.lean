import DialogueTree.Proofs.Reader.Conversation

/-!
# Calls

What a host can ask of a reader, as data, so that runs of any length can be spoken about. A `Call`
leaves the reader in its tree; an `Action` may also take it into a tree or out of one. A session is
`Reachable` if a new reader can come into it by any actions, with whatever happens to the shared
state in between.

Results:
* `run_conversation`: a call does to a session what it does to its conversation.
* `replies_eq`: sessions with one conversation answer any calls alike.
* `advance_eq_follow`, `choose_eq_follow`: an advance and an answer follow an exit of the node the
  reader is at.
* `documents_run`: no action changes a document.
-/

namespace DialogueTree

/-- What a host can ask of a reader in a tree. -/
inductive Call where
  | advance
  | choose (choice : Nat)
  | jump (position : Nat)
  | output
  | expand (text : String)
  | speakerName
  | takeSpeakerChanged
  | changeSpeaker (speaker : Speaker)
  | getVariable (name : String) (type : ValueType)
  | setVariable (name : String) (value : Value)
  | addVariable (v : Variable)
  | removeVariable (name : String)
  | snapshot

/-- What a host can ask of a reader. -/
inductive Action where
  | load (tree : Nat) (start : Option Int32)
  | unload
  | resume (tree : Nat) (snap : Snapshot)
  | call (c : Call)

/-- What a reader answers. -/
inductive Reply where
  | loaded (r : Except ReaderError LoadReport)
  | reached (r : Except ReaderError NodeType)
  | done (r : Except ReaderError Unit)
  | shown (r : Except ReaderError Output)
  | expanded (r : Except ReaderError String)
  | name (r : Option String)
  | value (r : Option Value)
  | flag (b : Bool)
  | saved (r : Except ReaderError Snapshot)

namespace Call

/-- What a session does on a call. -/
def run (s : Session) : Call → Reply × Session
  | advance => (.reached s.advance.1, s.advance.2)
  | choose choice => (.reached (s.choose choice).1, (s.choose choice).2)
  | jump i => (.reached (s.jump i).1, (s.jump i).2)
  | output => (.shown s.output, s)
  | expand text => (.expanded (s.expand text), s)
  | speakerName => (.name s.speakerName?, s)
  | takeSpeakerChanged => (.flag s.takeSpeakerChanged.1, s.takeSpeakerChanged.2)
  | changeSpeaker speaker => (.done (s.changeSpeaker speaker).1, (s.changeSpeaker speaker).2)
  | getVariable name type => (.value (s.locals.get? name type), s)
  | setVariable name v => (.flag (s.setVariable name v).1, (s.setVariable name v).2)
  | addVariable v => (.flag (s.addVariable v).1, (s.addVariable v).2)
  | removeVariable name => (.flag (s.removeVariable name).1, (s.removeVariable name).2)
  | snapshot => (.saved s.snapshot, s)

/-- What a conversation does on a call. -/
def converse (c : Conversation) : Call → Reply × Conversation
  | advance => (.reached c.advance.1, c.advance.2)
  | choose choice => (.reached (c.choose choice).1, (c.choose choice).2)
  | jump i => (.reached (c.jump i).1, (c.jump i).2)
  | output => (.shown c.output, c)
  | expand text => (.expanded (.ok (c.expand text)), c)
  | speakerName => (.name (some (c.expand c.scene.speaker.name)), c)
  | takeSpeakerChanged => (.flag c.scene.changed, c.noteSpeaker)
  | changeSpeaker speaker => (.done (.ok ()), c.changeSpeaker speaker)
  | getVariable name type => (.value (c.scene.locals.get? name type), c)
  | setVariable name v => (.flag (c.tryLocals (·.set? name v)).1, (c.tryLocals (·.set? name v)).2)
  | addVariable v => (.flag (c.tryLocals (·.insert? v)).1, (c.tryLocals (·.insert? v)).2)
  | removeVariable name => (.flag (c.tryLocals (·.erase? name)).1, (c.tryLocals (·.erase? name)).2)
  | snapshot => (.saved (.ok c.snapshot), c)

/-- A call does to a session what it does to its conversation. -/
theorem run_conversation {s : Session} {c : Conversation} (h : s.conversation? = some c)
    (call : Call) :
    (call.run s).1 = (call.converse c).1 ∧
      (call.run s).2.conversation? = some (call.converse c).2 := by
  cases call with
  | advance => exact (Session.advance_conversation h).imp_left (congrArg _)
  | choose choice => exact (Session.choose_conversation h choice).imp_left (congrArg _)
  | jump i => exact (Session.jump_conversation h i).imp_left (congrArg _)
  | output => exact ⟨congrArg _ (Session.output_conversation h), h⟩
  | expand text => exact ⟨congrArg _ (Session.expand_conversation h text), h⟩
  | speakerName => exact ⟨congrArg _ (Session.speakerName?_conversation h), h⟩
  | takeSpeakerChanged => exact (Session.takeSpeakerChanged_conversation h).imp_left (congrArg _)
  | changeSpeaker speaker =>
    exact (Session.changeSpeaker_conversation h speaker).imp_left (congrArg _)
  | getVariable name type =>
    exact ⟨congrArg (fun l : Store => Reply.value (l.get? name type))
      (Session.locals_conversation h), h⟩
  | setVariable name v => exact (Session.tryLocals_conversation h _).imp_left (congrArg _)
  | addVariable v => exact (Session.tryLocals_conversation h _).imp_left (congrArg _)
  | removeVariable name => exact (Session.tryLocals_conversation h _).imp_left (congrArg _)
  | snapshot => exact ⟨congrArg _ (Session.snapshot_conversation h), h⟩

end Call

/-- What a session does on an action. -/
def Action.run (s : Session) : Action → Reply × Session
  | load tree start => (.loaded (s.load tree start).1, (s.load tree start).2)
  | unload => (.done (.ok ()), s.unload)
  | resume tree snap => (.done (s.resume tree snap).1, (s.resume tree snap).2)
  | call c => c.run s

namespace Session

/-- What a reader answers to calls one after another. -/
def replies (s : Session) : List Call → List Reply
  | [] => []
  | c :: rest => (c.run s).1 :: (c.run s).2.replies rest

/-- Sessions with one conversation answer any calls alike. -/
theorem replies_eq {s s' : Session} {c : Conversation} (h : s.conversation? = some c)
    (h' : s'.conversation? = some c) (calls : List Call) : s.replies calls = s'.replies calls := by
  induction calls generalizing s s' c with
  | nil => rfl
  | cons call rest ih =>
    obtain ⟨hreply, hnext⟩ := call.run_conversation h
    obtain ⟨hreply', hnext'⟩ := call.run_conversation h'
    rw [replies, replies, hreply, hreply', ih hnext hnext']

/-! ## Two sessions -/

/-- Whether two sessions come to the same result, and after it are related. -/
def Agree {α : Type} (R : Session → Session → Prop) (x x' : α × Session) : Prop :=
  x.1 = x'.1 ∧ R x.2 x'.2

theorem Agree.map {α β : Type} {R : Session → Session → Prop} {x x' : α × Session}
    (h : Agree R x x') (f : α → β) : Agree R (f x.1, x.2) (f x'.1, x'.2) :=
  h.imp_left (congrArg f)

/-! ## Following an exit -/

/-- Walks on from where an exit leads. -/
def follow (s : Session) (exit : Document → Nat → Except ReaderError Nat) :
    Except ReaderError NodeType × Session :=
  match s.loaded? with
  | none => (.error .noTree, s)
  | some (p, t) => match exit t.document p.cursor with
    | .ok first => s.settle p t first
    | .error e => (.error e, s)

theorem advance_eq_follow (s : Session) : s.advance = s.follow Document.onward := rfl

theorem choose_eq_follow (s : Session) (choice : Nat) :
    s.choose choice = s.follow (·.answered · choice) := rfl

/-! ## Documents stay as they are -/

theorem documents_withScene (s : Session) (i cursor : Nat) (after : Scene) :
    (s.withScene i cursor after).library.documents = s.library.documents :=
  s.library.documents_modifyTree i fun _ => rfl

theorem documents_settle (s : Session) (p : Place) (t : Tree) (first : Nat) :
    (s.settle p t first).2.library.documents = s.library.documents := by
  unfold settle
  split <;> exact s.documents_withScene _ _ _

theorem documents_follow (s : Session) (exit : Document → Nat → Except ReaderError Nat) :
    (s.follow exit).2.library.documents = s.library.documents := by
  unfold follow
  split
  · rfl
  · split
    · exact s.documents_settle _ _ _
    · rfl

theorem documents_unload (s : Session) : s.unload.library.documents = s.library.documents := by
  unfold unload
  dsimp only
  split
  · exact s.library.documents_modifyTree _ fun _ => rfl
  · rfl

theorem documents_load (s : Session) (tree : Nat) (start : Option Int32) :
    (s.load tree start).2.library.documents = s.library.documents := by
  unfold load
  dsimp only
  split
  · exact s.documents_unload
  · split
    · exact s.documents_unload
    · rename_i t _ _ startNode first _
      have hsettle := documents_settle
        { s.unload with reader := ⟨some { tree, cursor := startNode }, false⟩ }
        { tree, cursor := startNode } t first
      split
      next h =>
        rw [h] at hsettle
        exact hsettle.trans s.documents_unload
      next h =>
        rw [h] at hsettle
        exact (documents_unload _).trans (hsettle.trans s.documents_unload)

theorem documents_resume (s : Session) (i : Nat) (snap : Snapshot) :
    (s.resume i snap).2.library.documents = s.library.documents := by
  unfold resume
  split
  · rfl
  · split
    · rfl
    · exact (documents_withScene _ _ _ _).trans s.documents_unload

theorem documents_modifyTree (s : Session) {f : Tree → Tree}
    (hf : ∀ t, (f t).document = t.document) :
    (s.modifyTree f).library.documents = s.library.documents := by
  unfold modifyTree
  split
  · exact s.library.documents_modifyTree _ hf
  · rfl

theorem documents_tryLocals (s : Session) (f : Store → Option Store) :
    (s.tryLocals f).2.library.documents = s.library.documents := by
  unfold tryLocals
  split
  · exact s.documents_modifyTree fun _ => rfl
  · rfl

end Session

theorem Call.documents_run (s : Session) (c : Call) :
    (c.run s).2.library.documents = s.library.documents := by
  cases c with
  | advance =>
    rw [run, s.advance_eq_follow]
    exact s.documents_follow _
  | choose choice =>
    rw [run, s.choose_eq_follow]
    exact s.documents_follow _
  | jump i =>
    unfold run Session.jump
    dsimp only
    split
    · rfl
    · split <;> rfl
  | changeSpeaker speaker =>
    unfold run Session.changeSpeaker
    dsimp only
    split
    · rfl
    · exact s.documents_modifyTree fun _ => rfl
  | setVariable name v => exact s.documents_tryLocals _
  | addVariable v => exact s.documents_tryLocals _
  | removeVariable name => exact s.documents_tryLocals _
  | output | expand | speakerName | takeSpeakerChanged | getVariable | snapshot => rfl

/-- No action changes a document. -/
theorem Action.documents_run (s : Session) (a : Action) :
    (a.run s).2.library.documents = s.library.documents := by
  cases a with
  | load tree start => exact s.documents_load tree start
  | unload => exact s.documents_unload
  | resume tree snap => exact s.documents_resume tree snap
  | call c => exact c.documents_run s

/-! ## Reachable sessions -/

/-- The sessions that a new reader of some library can come into. Between its actions other readers
and the host may change the state of the trees and the variables, and add trees, but no document. -/
inductive Session.Reachable : Session → Prop
  | new (l : Library) : Reachable ⟨l, {}⟩
  | act {s : Session} (a : Action) : Reachable s → Reachable (a.run s).2
  | shared {s : Session} {l : Library} : Reachable s → s.library.documents <+: l.documents →
      Reachable { s with library := l }

end DialogueTree
