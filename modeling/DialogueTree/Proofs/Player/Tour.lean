import DialogueTree.Player.Announcement
import DialogueTree.Proofs.Library.Sources
import DialogueTree.Proofs.Reader.Pass
import DialogueTree.Proofs.Reader.Resumption
import DialogueTree.Reader.Opening

/-!
# Tours

A conversation that one reader leads from its start, with all that is shown on the way: after each
move the stop that the reader comes to, and the state that it is in once the stop has been shown. A
tour is over at an end of the tree, and where a move fails.

Between two moves the conversation is anchored in the library: its document is one of a tree there,
and the cursor is a place of rest behind an edge, so that both can be found again from a snapshot.

Results:
* `Session.halt_conversation`, `Session.proceed_conversation`: halts of a session are halts of its
  conversation.
* `Conversation.IsAnchored.follow`, `Library.anchored_of_start`: the invariant.
* `Library.resume_snapshot`: an anchored conversation is found again in any library of the same
  trees.
-/

namespace DialogueTree

/-- A step that takes a conversation from one stop to the next. -/
inductive Move where
  | next
  | choose (choice : Nat)
  deriving DecidableEq

/-- A stop, and the state of the conversation once it has been shown. -/
structure Halt where
  stop : Stop
  state : Snapshot
  deriving DecidableEq

namespace Halt

/-- Whether the conversation ends here. -/
def isOver (h : Halt) : Bool := h.stop.output.isFinish

end Halt

namespace Move

/-- What a session does on a move. -/
def go (s : Session) : Move → Except ReaderError NodeType × Session
  | next => s.advance
  | choose choice => s.choose choice

/-- Where the walk of a move begins. -/
def exit (c : Conversation) : Move → Except ReaderError Nat
  | next => c.document.onward c.cursor
  | choose choice => c.document.answered c.cursor choice

theorem go_conversation {s : Session} {c : Conversation} (h : s.conversation? = some c)
    (m : Move) :
    (m.go s).1 = (c.follow (m.exit c)).1 ∧
      (m.go s).2.conversation? = some (c.follow (m.exit c)).2 := by
  cases m with
  | next => exact Session.advance_conversation h
  | choose choice => exact Session.choose_conversation h choice

theorem leads_of_exit {c : Conversation} {m : Move} {first : Nat} (h : m.exit c = .ok first) :
    c.document.Leads c.cursor first := by
  cases m with
  | next => exact Session.leads_of_onward h
  | choose choice => exact Session.leads_of_answered h

end Move

/-! ## Halts -/

namespace Session

/-- What a reader shows where it rests, with the state that it is then in. -/
def halt (s : Session) (announce : Bool) : Except ReaderError Halt × Session :=
  ((s.stop announce).1.bind fun stop =>
      (s.stop announce).2.snapshot.map fun state => ⟨stop, state⟩,
    (s.stop announce).2)

/-- A move, and what the reader shows then. -/
def proceed (s : Session) (m : Move) : Except ReaderError Halt × Session :=
  match m.go s with
  | (.error e, after) => (.error e, after)
  | (.ok _, after) => after.halt false

/-- What a reader shows on its way, beginning with what it has shown last. -/
def tour (last : Except ReaderError Halt × Session) : List Move → List (Except ReaderError Halt)
  | [] => [last.1]
  | m :: moves => last.1 :: match last.1 with
    | .error _ => []
    | .ok h => if h.isOver then [] else tour (last.2.proceed m) moves

end Session

namespace Conversation

variable {c : Conversation}

/-- What is shown at the cursor. -/
def halt (c : Conversation) (announce : Bool) : Except ReaderError Halt :=
  (c.stop announce).1.map fun stop => ⟨stop, c.noteSpeaker.snapshot⟩

theorem halt_eq_ok {announce : Bool} {h : Halt} (hh : c.halt announce = .ok h) :
    (c.stop announce).1 = .ok h.stop ∧ h.state = c.noteSpeaker.snapshot := by
  unfold halt at hh
  cases hstop : (c.stop announce).1 with
  | error e =>
    rw [hstop] at hh
    cases hh
  | ok stop =>
    rw [hstop] at hh
    cases hh
    exact ⟨rfl, rfl⟩

theorem halt_eq_error {announce : Bool} {e : ReaderError} (he : c.halt announce = .error e) :
    (c.stop announce).1 = .error e := by
  unfold halt at he
  exact Outcome.map_eq_error.mp he

end Conversation

namespace Session

variable {s : Session} {c : Conversation}

theorem halt_conversation (h : s.conversation? = some c) (announce : Bool) :
    (s.halt announce).1 = c.halt announce ∧
      (s.halt announce).2.conversation? = some c.noteSpeaker := by
  obtain ⟨hstop, hnoted⟩ := stop_conversation h announce
  have hafter : (c.stop announce).2 = c.noteSpeaker := rfl
  rw [hafter] at hnoted
  refine ⟨?_, hnoted⟩
  unfold halt Conversation.halt
  rw [hstop, snapshot_conversation hnoted]
  rfl

theorem tour_of_open {last : Except ReaderError Halt × Session} {h : Halt} (hlast : last.1 = .ok h)
    (hopen : h.isOver = false) (m : Move) (moves : List Move) :
    tour last (m :: moves) = last.1 :: tour (last.2.proceed m) moves := by
  rw [tour, hlast]
  dsimp only
  rw [hopen, if_neg Bool.false_ne_true]

/-- A tour goes on only from a stop that is not an end. -/
theorem tour_cons_getElem? {last : Except ReaderError Halt × Session} {m : Move}
    {moves : List Move} {k : Nat} {x : Except ReaderError Halt}
    (hk : (tour last (m :: moves))[k + 1]? = some x) :
    ∃ h, last.1 = .ok h ∧ h.isOver = false ∧ (tour (last.2.proceed m) moves)[k]? = some x := by
  rw [tour, List.getElem?_cons_succ] at hk
  cases hlast : last.1 with
  | error e =>
    rw [hlast] at hk
    cases hk
  | ok h =>
    rw [hlast] at hk
    dsimp only at hk
    cases hover : h.isOver with
    | true =>
      rw [hover] at hk
      cases hk
    | false =>
      rw [hover, if_neg Bool.false_ne_true] at hk
      exact ⟨h, rfl, hover, hk⟩

theorem proceed_conversation (h : s.conversation? = some c) (m : Move) :
    (∃ e, (c.follow (m.exit c)).1 = .error e ∧ (m.go s).1 = .error e ∧
      (s.proceed m).1 = .error e) ∨
    (∃ type, (c.follow (m.exit c)).1 = .ok type ∧ (m.go s).1 = .ok type ∧
      s.proceed m = (m.go s).2.halt false) := by
  have hgo := (m.go_conversation h).1
  rw [← hgo]
  unfold proceed
  rcases m.go s with ⟨⟨e⟩ | ⟨type⟩, after⟩
  · exact .inl ⟨e, rfl, rfl, rfl⟩
  · exact .inr ⟨type, rfl, rfl, rfl⟩

end Session

/-! ## Anchors -/

/-- A walk comes to rest behind an edge. -/
theorem Document.leads_of_walk {d : Document} {cursor hops first : Nat} {s after : Scene} {r : Rest}
    (h : d.walk cursor hops s first = (.ok r, after)) (hfirst : ∃ source, d.Leads source first) :
    ∃ source, d.Leads source r.cursor := by
  obtain ⟨v, hlast, hv⟩ := walk_eq_ok h
  obtain ⟨n, hn, rfl, -⟩ := visit_eq_rest hv
  have hhere := leads_of_visits hfirst (List.mem_of_getLast? hlast)
  unfold restAt
  split
  next _ link rest _ hout =>
    split
    · exact ⟨v.position, n, hn, link, by rw [hout]; exact List.mem_cons_self .., rfl⟩
    · exact hhere
  · exact hhere

namespace Conversation

variable {c : Conversation} {l : Library}

/-- A walk that succeeds leads to a position of 64 bits. -/
theorem cursor_follow_lt (hd : c.document.Bounded) {first : Nat} {type : NodeType}
    (hfirst : ∃ source, c.document.Leads source first)
    (h : (c.follow (.ok first)).1 = .ok type) :
    (c.follow (.ok first)).2.cursor < indexLimit := by
  unfold follow at *
  dsimp only at *
  split at h
  next r after hsettle =>
    obtain ⟨source, hleads⟩ :=
      Document.leads_of_walk (Document.settle_eq_ok.mp hsettle) hfirst
    exact hd source _ hleads
  · cases h

/-- What lets a conversation be found again by a snapshot. -/
structure IsAnchored (c : Conversation) (l : Library) : Prop where
  rest : c.AtRest
  cursor_lt : c.cursor < indexLimit
  document_mem : c.document ∈ l.documents

theorem IsAnchored.noteSpeaker (h : c.IsAnchored l) : c.noteSpeaker.IsAnchored l :=
  ⟨h.rest, h.cursor_lt, h.document_mem⟩

/-- A move that succeeds leads to another anchor. -/
theorem IsAnchored.follow (h : c.IsAnchored l) (hl : l.IsSound) {m : Move} {type : NodeType}
    (hm : (c.follow (m.exit c)).1 = .ok type) : (c.follow (m.exit c)).2.IsAnchored l := by
  refine ⟨atRest_follow h.rest _, ?_, ?_⟩
  · cases hexit : m.exit c with
    | error e =>
      rw [hexit] at hm
      cases hm
    | ok first =>
      rw [hexit] at hm
      exact cursor_follow_lt (hl.bounded _ h.document_mem) ⟨_, Move.leads_of_exit hexit⟩ hm
  · rw [document_follow]
    exact h.document_mem

end Conversation

namespace Session

variable {s : Session}

/-- What a reader that has loaded a tree has walked. -/
theorem load_conversation {tree : Nat} {start : Option Int32} {report : LoadReport}
    (h : (s.load tree start).1 = .ok report) :
    ∃ w, s.opening? tree start = some w ∧ w.result = .ok report.resting ∧
      (s.load tree start).2.conversation? = some (w.conversation.follow (.ok w.first)).2 := by
  unfold load at h ⊢
  dsimp only at h ⊢
  cases ht : s.unload.library.tree? tree with
  | none =>
    rw [ht] at h
    cases h
  | some t =>
    rw [ht] at h
    dsimp only at h ⊢
    cases hentry : t.document.entry (start.getD t.defaultStart) with
    | error e =>
      rw [hentry] at h
      cases h
    | ok way =>
      obtain ⟨startNode, first⟩ := way
      rw [hentry] at h
      dsimp only at h ⊢
      have hl : loaded? { s.unload with reader := ⟨some { tree, cursor := startNode }, false⟩ } =
          some ({ tree, cursor := startNode }, t) := loaded?_eq_some.mpr ⟨rfl, ht⟩
      obtain ⟨hresult, hafter⟩ := settle_conversation hl first
      refine ⟨⟨⟨t.document, startNode, _⟩, first⟩,
        opening?_eq_some.mpr ⟨t, startNode, ht, hentry, rfl⟩, ?_, ?_⟩
      · unfold Pass.result
        rw [← hresult]
        split at h
        next hsettle =>
          cases h
          rw [hsettle]
        · cases h
      · split at h
        next hsettle =>
          rw [hsettle] at hafter
          exact hafter
        · cases h

end Session

namespace Library

variable {l l' : Library} {c : Conversation}

/-- A reader that has been started is anchored. -/
theorem anchored_of_start (hl : l.IsSound) {tree : Option String} {start : Option Int32}
    {report : LoadReport} (h : (l.start tree start).1 = .ok report) :
    ∃ c, (l.start tree start).2.conversation? = some c ∧ c.IsAnchored l := by
  unfold Library.start at h ⊢
  cases hi : l.resolve tree with
  | error e =>
    rw [hi] at h
    cases h
  | ok i =>
    rw [hi] at h
    dsimp only at h ⊢
    have hload : (Session.load ⟨l, {}⟩ i start).1 = .ok report := by
      cases hr : (Session.load ⟨l, {}⟩ i start).1 with
      | error e =>
        rw [hr] at h
        cases h
      | ok report' =>
        rw [hr] at h
        exact congrArg _ (Except.ok.inj h)
    obtain ⟨w, hw, hresult, hc⟩ := Session.load_conversation hload
    obtain ⟨t, startNode, ht, -, hcw⟩ := Session.opening?_eq_some.mp hw
    have hmem : w.conversation.document ∈ l.documents := by
      have hdocs := Session.documents_unload ⟨l, {}⟩
      rw [hcw, ← hdocs]
      exact List.mem_map.mpr ⟨t, List.mem_of_getElem? ht, rfl⟩
    have hleads : w.document.Leads w.conversation.cursor w.first :=
      Session.leads_of_pass? (a := .load i start) hw
    refine ⟨_, hc, ?_, ?_, ?_⟩
    · rcases Conversation.follow_spec w.conversation (.ok w.first) with
        ⟨type, -, htype, hstop, -⟩ | ⟨e, he, -⟩
      · unfold Conversation.AtRest
        rw [Conversation.document_follow]
        exact ⟨type, htype, hstop⟩
      · rw [Pass.result, he] at hresult
        cases hresult
    · exact Conversation.cursor_follow_lt (hl.bounded _ hmem) ⟨_, hleads⟩ hresult
    · rw [Conversation.document_follow]
      exact hmem

/-- A library of the same trees finds the conversation again. -/
theorem resume_snapshot (hl : l'.IsSound) (hdocs : l'.documents = l.documents)
    (hc : c.IsAnchored l) :
    (l'.resume c.snapshot).1 = .ok () ∧ (l'.resume c.snapshot).2.conversation? = some c := by
  have hmem : c.document ∈ l'.documents := by
    rw [hdocs]
    exact hc.document_mem
  obtain ⟨i, hi⟩ := List.mem_iff_getElem?.mp hmem
  have htree : c.snapshot.tree = c.document.name := rfl
  obtain ⟨t, ht, hdoc⟩ : ∃ t, l'.tree? i = some t ∧ t.document = c.document := by
    rw [documents_getElem?, Option.map_eq_some_iff] at hi
    exact hi
  have ht' : (Session.mk l' {}).library.tree? i = some t := ht
  obtain ⟨hok, hconv⟩ := Session.resume_snapshot ht' hdoc hc.rest
  unfold Library.resume
  rw [htree, hl.resolve_name hi]
  dsimp only
  rw [hok]
  exact ⟨rfl, hconv⟩

end Library

end DialogueTree
