import DialogueTree.Proofs.Reader.Calls
import DialogueTree.Proofs.Reader.Walk

/-!
# Places of rest

Between two actions a reader is idle, or it rests on a line, a question or an end of its tree. No
document is asked to be well formed for that: it is the walk that refuses to stop anywhere else,
and a snapshot is only taken in where its cursor is such a place.

Results:
* `Session.Reachable.settled`: the invariant, by induction on the actions.
* `Session.Reachable.rests`: what a host may rely on.
-/

namespace DialogueTree

/-- The kind of node that an output is shown for. -/
def Output.type : Output → NodeType
  | dialogue _ => .dialogue
  | branch .. => .branch
  | finish => .finish

theorem NodeType.isStop_iff {type : NodeType} :
    type.isStop = true ↔ type = .dialogue ∨ type = .branch ∨ type = .finish := by
  cases type <;> simp [isStop]

namespace Document

variable {d : Document} {n : Node} {i : Nat}

/-- Every place of rest has something to show, of its own kind. -/
theorem exists_output (hn : d.node? i = some n) (h : n.type.isStop = true)
    (expand : String → String) : ∃ o, d.output expand i = .ok o ∧ o.type = n.type := by
  unfold output
  rw [nodeAt_eq_ok.mpr hn]
  simp only [Outcome.bind_ok]
  cases hc : n.content with
  | dialogue | branch | finish => exact ⟨_, rfl, by simp [Output.type, Node.type, hc, Content.type]⟩
  | _ => simp [Node.type, hc, Content.type, NodeType.isStop] at h

/-- A walk that comes to rest, rests where it says. -/
theorem walk_rests {cursor hops : Nat} {s after : Scene} {r : Rest}
    (h : d.walk cursor hops s i = (.ok r, after)) :
    d.nodeType? r.cursor = some r.type ∧ r.type.isStop = true ∧ ¬d.LeadsIn r.cursor := by
  obtain ⟨v, -, hv⟩ := walk_eq_ok h
  obtain ⟨m, hm, rfl, hrest⟩ := visit_eq_rest hv
  exact restAt_spec hm hrest.isStop

end Document

namespace Conversation

variable {c : Conversation}

/-- Whether the cursor is a place of rest. -/
def AtRest (c : Conversation) : Prop := c.document.IsStop c.cursor

/-- A walk leads to a place of rest, or leaves the cursor where it is. -/
theorem follow_spec (c : Conversation) (first : Except ReaderError Nat) :
    (∃ type, (c.follow first).1 = .ok type ∧
      c.document.nodeType? (c.follow first).2.cursor = some type ∧ type.isStop = true ∧
      ¬c.document.LeadsIn (c.follow first).2.cursor) ∨
    (∃ e, (c.follow first).1 = .error e ∧ (c.follow first).2.cursor = c.cursor) := by
  unfold follow
  split
  next e => exact .inr ⟨e, rfl, rfl⟩
  next i =>
    split
    next r after h =>
      obtain ⟨htype, hstop, hlead⟩ := Document.walk_rests (Document.settle_eq_ok.mp h)
      exact .inl ⟨r.type, rfl, htype, hstop, hlead⟩
    next e after h => exact .inr ⟨e, rfl, rfl⟩

theorem document_follow (c : Conversation) (first : Except ReaderError Nat) :
    (c.follow first).2.document = c.document := by
  unfold follow
  split
  · rfl
  · split <;> rfl

theorem atRest_follow (h : c.AtRest) (first : Except ReaderError Nat) :
    (c.follow first).2.AtRest := by
  unfold AtRest
  rw [document_follow]
  rcases c.follow_spec first with ⟨type, -, htype, hstop, -⟩ | ⟨-, -, hcursor⟩
  · exact ⟨type, htype, hstop⟩
  · rw [hcursor]
    exact h

theorem follow_eq_ok {first : Except ReaderError Nat} {type : NodeType}
    (h : (c.follow first).1 = .ok type) :
    (c.follow first).2.document.nodeType? (c.follow first).2.cursor = some type ∧
      ¬(c.follow first).2.document.LeadsIn (c.follow first).2.cursor := by
  rw [document_follow]
  rcases c.follow_spec first with ⟨type', hok, htype, -, hlead⟩ | ⟨e, herror, -⟩
  · obtain rfl : type' = type := Except.ok.inj (hok.symm.trans h)
    exact ⟨htype, hlead⟩
  · rw [herror] at h
    cases h

theorem jump_eq_ok {i : Nat} {type : NodeType} (h : (c.jump i).1 = .ok type) :
    (c.jump i).2 = { c with cursor := i } ∧ c.document.nodeType? i = some type ∧
      type.isStop = true := by
  unfold jump Document.resting at *
  cases ht : c.document.nodeType? i with
  | none => simp [ht] at h
  | some found =>
    by_cases hstop : found.isStop = true
    · simp only [ht, hstop, if_true, Except.ok.injEq] at h ⊢
      exact ⟨trivial, congrArg some h, h ▸ hstop⟩
    · simp [ht, hstop] at h

theorem jump_eq_error {i : Nat} {e : ReaderError} (h : (c.jump i).1 = .error e) :
    (c.jump i).2 = c := by
  unfold jump at *
  split at h
  · cases h
  · simp_all

theorem atRest_jump (h : c.AtRest) (i : Nat) : (c.jump i).2.AtRest := by
  cases hj : (c.jump i).1 with
  | ok type =>
    obtain ⟨hafter, htype, hstop⟩ := jump_eq_ok hj
    rw [hafter]
    exact ⟨type, htype, hstop⟩
  | error e =>
    rw [jump_eq_error hj]
    exact h

theorem atRest_tryLocals (h : c.AtRest) (f : Store → Option Store) :
    (c.tryLocals f).2.AtRest := by
  unfold tryLocals
  split <;> exact h

/-- A conversation that is at rest stays so whatever it is asked. -/
theorem atRest_converse (h : c.AtRest) (call : Call) : (call.converse c).2.AtRest := by
  cases call with
  | advance => exact atRest_follow h _
  | choose choice => exact atRest_follow h _
  | jump i => exact atRest_jump h i
  | setVariable | addVariable | removeVariable => exact atRest_tryLocals h _
  | output | expand | speakerName | takeSpeakerChanged | changeSpeaker | getVariable | snapshot =>
    exact h

end Conversation

namespace Session

variable {s : Session} {c : Conversation}

/-- The speaker that returns when the current line is left. An idle reader has none: there is no
place that could keep one. -/
def pending? (s : Session) : Option Speaker := s.reader.place.bind (·.pending)

/-- Whether the reader rests on a line or an end that leads into a question. -/
def LeadsIn (s : Session) : Prop :=
  ∃ c, s.conversation? = some c ∧ c.document.LeadsIn c.cursor

/-- Whether the reader is idle or at rest in its tree. -/
def Settled (s : Session) : Prop :=
  s.reader.place = none ∨ ∃ c, s.conversation? = some c ∧ c.AtRest

/-- An idle reader has no conversation. -/
theorem conversation?_of_idle (h : s.reader.place = none) : s.conversation? = none := by
  simp [conversation?, loaded?, h]

theorem Settled.atRest (h : s.Settled) (hc : s.conversation? = some c) : c.AtRest := by
  rcases h with hidle | ⟨c', hc', hrest⟩
  · rw [conversation?_of_idle hidle] at hc
    cases hc
  · obtain rfl : c' = c := Option.some.inj (hc'.symm.trans hc)
    exact hrest

theorem Settled.exists_node (h : s.Settled) (hc : s.conversation? = some c) :
    ∃ n, c.document.node? c.cursor = some n := by
  obtain ⟨type, htype, -⟩ := h.atRest hc
  obtain ⟨n, hn, -⟩ := Document.nodeType?_eq_some.mp htype
  exact ⟨n, hn⟩

theorem nodeType?_conversation (h : s.conversation? = some c) :
    s.nodeType? = c.document.nodeType? c.cursor := by
  obtain ⟨p, t, hl, rfl⟩ := conversation?_eq_some.mp h
  simp [nodeType?, hl]

theorem not_leadsIn (h : s.conversation? = some c) (hc : ¬c.document.LeadsIn c.cursor) :
    ¬s.LeadsIn := by
  rintro ⟨c', h', hleads⟩
  obtain rfl : c = c' := Option.some.inj (h.symm.trans h')
  exact hc hleads

/-- After a walk the reader is where the walk says. -/
theorem nodeType?_follow {after : Session} {first : Except ReaderError Nat} {type : NodeType}
    (hafter : after.conversation? = some (c.follow first).2)
    (hresult : (c.follow first).1 = .ok type) :
    after.nodeType? = some type ∧ ¬after.LeadsIn := by
  obtain ⟨htype, hlead⟩ := Conversation.follow_eq_ok hresult
  exact ⟨(nodeType?_conversation hafter).trans htype, not_leadsIn hafter hlead⟩

/-- Loading a tree leads to a place of rest, or leaves the reader idle. -/
theorem load_spec (s : Session) (tree : Nat) (start : Option Int32) :
    (∃ report c, (s.load tree start).1 = .ok report ∧
      (s.load tree start).2.conversation? = some c ∧
      c.document.nodeType? c.cursor = some report.resting ∧ report.resting.isStop = true ∧
      ¬c.document.LeadsIn c.cursor) ∨
    (∃ e, (s.load tree start).1 = .error e ∧ (s.load tree start).2.reader.place = none) := by
  unfold load
  dsimp only
  split
  · exact .inr ⟨_, rfl, rfl⟩
  next t ht =>
    split
    · exact .inr ⟨_, rfl, rfl⟩
    next startNode first _ =>
      -- While it walks, the reader stands on the start node.
      have hl : loaded? { s.unload with reader := ⟨some { tree, cursor := startNode }, false⟩ } =
          some ({ tree, cursor := startNode }, t) := loaded?_eq_some.mpr ⟨rfl, ht⟩
      obtain ⟨hresult, hafter⟩ := settle_conversation hl first
      split
      next resting after h =>
        rw [h] at hresult hafter
        refine .inl ⟨_, _, rfl, hafter, ?_⟩
        rcases Conversation.follow_spec _ (.ok first) with
          ⟨type, hok, htype, hstop, hlead⟩ | ⟨e, he, -⟩
        · obtain rfl : type = resting := Except.ok.inj (hok.symm.trans hresult.symm)
          rw [Conversation.document_follow]
          exact ⟨htype, hstop, hlead⟩
        · rw [he] at hresult
          cases hresult
      next e after h => exact .inr ⟨e, rfl, rfl⟩

theorem settled_load (s : Session) (tree : Nat) (start : Option Int32) :
    (s.load tree start).2.Settled := by
  rcases s.load_spec tree start with ⟨report, c, -, hc, htype, hstop, -⟩ | ⟨-, -, hidle⟩
  · exact .inr ⟨c, hc, report.resting, htype, hstop⟩
  · exact .inl hidle

theorem isStop_of_refusal? {t : Tree} {snap : Snapshot} (h : refusal? t snap = none) :
    t.document.IsStop snap.cursor := by
  unfold refusal? at h
  split at h
  · cases h
  · split at h
    · cases h
    · split at h
      next hstop => exact (Option.any_eq_true _ _).mp hstop
      · cases h

/-- A snapshot is taken in where its cursor is a place of rest, or changes nothing. -/
theorem settled_resume (h : s.Settled) (tree : Nat) (snap : Snapshot) :
    (s.resume tree snap).2.Settled := by
  cases ht : s.library.tree? tree with
  | none => simpa [resume, ht] using h
  | some t =>
    cases hr : refusal? t snap with
    | some e => simpa [resume, ht, hr] using h
    | none => exact .inr ⟨_, (resume_conversation ht hr).2, isStop_of_refusal? hr⟩

/-- An idle reader stays idle whatever it is asked. -/
theorem place_run_of_idle (h : s.reader.place = none) (call : Call) :
    (call.run s).2.reader.place = none := by
  have hl : s.loaded? = none := by simp [loaded?, h]
  cases call with
  | advance => simpa [Call.run, advance, hl] using h
  | choose choice => simpa [Call.run, choose, hl] using h
  | jump i => simpa [Call.run, jump, hl] using h
  | changeSpeaker speaker => simpa [Call.run, changeSpeaker, hl] using h
  | setVariable => simpa [Call.run, setVariable, tryLocals, tree?, hl] using h
  | addVariable => simpa [Call.run, addVariable, tryLocals, tree?, hl] using h
  | removeVariable => simpa [Call.run, removeVariable, tryLocals, tree?, hl] using h
  | output | expand | speakerName | takeSpeakerChanged | getVariable | snapshot => exact h

theorem settled_call (h : s.Settled) (call : Call) : (call.run s).2.Settled := by
  rcases h with hidle | ⟨c, hc, hrest⟩
  · exact .inl (place_run_of_idle hidle call)
  · exact .inr ⟨_, (call.run_conversation hc).2, c.atRest_converse hrest call⟩

/-- What every action keeps. -/
theorem settled_run (h : s.Settled) (a : Action) : (a.run s).2.Settled := by
  cases a with
  | load tree start => exact s.settled_load tree start
  | unload => exact .inl rfl
  | resume tree snap => exact settled_resume h tree snap
  | call c => exact settled_call h c

/-- What others do to the trees and variables does not move the cursor. -/
theorem settled_withLibrary (h : s.Settled) {l : Library}
    (hl : s.library.documents <+: l.documents) : Settled { s with library := l } := by
  rcases h with hidle | ⟨c, hc, hrest⟩
  · exact .inl hidle
  · obtain ⟨p, t, hp, rfl⟩ := conversation?_eq_some.mp hc
    obtain ⟨hplace, htree⟩ := loaded?_eq_some.mp hp
    have hdoc : s.library.documents[p.tree]? = some t.document := by
      rw [Library.documents_getElem?, htree]
      rfl
    obtain ⟨more, hmore⟩ := hl
    have hdoc' : l.documents[p.tree]? = some t.document := by
      rw [← hmore, List.getElem?_append_left (List.getElem?_eq_some_iff.mp hdoc).1, hdoc]
    rw [Library.documents_getElem?, Option.map_eq_some_iff] at hdoc'
    obtain ⟨t', htree', hsame⟩ := hdoc'
    refine .inr ⟨_, conversation?_of_loaded? (loaded?_eq_some.mpr ⟨hplace, htree'⟩), ?_⟩
    unfold Conversation.AtRest
    rw [hsame]
    exact hrest

/-- The invariant of all that a host can do. -/
theorem Reachable.settled (h : s.Reachable) : s.Settled := by
  induction h with
  | new l => exact .inl rfl
  | act a _ ih => exact settled_run ih a
  | shared _ hl ih => exact settled_withLibrary ih hl

theorem advance_eq_ok {type : NodeType} (h : s.advance.1 = .ok type) :
    s.advance.2.nodeType? = some type ∧ ¬s.advance.2.LeadsIn := by
  cases hc : s.conversation? with
  | none =>
    have hl : s.loaded? = none := by simpa [conversation?] using hc
    simp [advance, hl] at h
  | some c =>
    obtain ⟨hresult, hafter⟩ := advance_conversation hc
    exact nodeType?_follow hafter (hresult.symm.trans h)

theorem choose_eq_ok {choice : Nat} {type : NodeType} (h : (s.choose choice).1 = .ok type) :
    (s.choose choice).2.nodeType? = some type ∧ ¬(s.choose choice).2.LeadsIn := by
  cases hc : s.conversation? with
  | none =>
    have hl : s.loaded? = none := by simpa [conversation?] using hc
    simp [choose, hl] at h
  | some c =>
    obtain ⟨hresult, hafter⟩ := choose_conversation hc choice
    exact nodeType?_follow hafter (hresult.symm.trans h)

theorem jump_eq_ok {i : Nat} {type : NodeType} (h : (s.jump i).1 = .ok type) :
    (s.jump i).2.nodeType? = some type := by
  cases hc : s.conversation? with
  | none =>
    have hl : s.loaded? = none := by simpa [conversation?] using hc
    simp [jump, hl] at h
  | some c =>
    obtain ⟨hresult, hafter⟩ := jump_conversation hc i
    obtain ⟨hjump, htype, -⟩ := Conversation.jump_eq_ok (hresult.symm.trans h)
    rw [nodeType?_conversation hafter, hjump]
    exact htype

theorem load_eq_ok {tree : Nat} {start : Option Int32} {report : LoadReport}
    (h : (s.load tree start).1 = .ok report) :
    (s.load tree start).2.nodeType? = some report.resting ∧ ¬(s.load tree start).2.LeadsIn := by
  rcases s.load_spec tree start with ⟨report', c, hok, hc, htype, -, hlead⟩ | ⟨e, he, -⟩
  · obtain rfl : report' = report := Except.ok.inj (hok.symm.trans h)
    exact ⟨(nodeType?_conversation hc).trans htype, not_leadsIn hc hlead⟩
  · rw [he] at h
    cases h

theorem load_eq_error {tree : Nat} {start : Option Int32} {e : ReaderError}
    (h : (s.load tree start).1 = .error e) : (s.load tree start).2.reader.place = none := by
  rcases s.load_spec tree start with ⟨report, c, hok, -⟩ | ⟨e, -, hidle⟩
  · rw [hok] at h
    cases h
  · exact hidle

/-- A reader is idle, or it rests on a line, a question or an end of its tree, which it can show
and save. Where a call succeeds, it says where the reader rests now; and a walk never ends on a
line or an end that leads into a question. -/
theorem Reachable.rests (h : s.Reachable) :
    ((s.reader.place = none ∧ s.pending? = none) ∨
      ∃ p t n o snap, s.reader.place = some p ∧ s.library.tree? p.tree = some t ∧
        t.document.node? p.cursor = some n ∧
        (n.type = .dialogue ∨ n.type = .branch ∨ n.type = .finish) ∧
        s.output = .ok o ∧ o.type = n.type ∧ s.snapshot = .ok snap) ∧
    (∀ tree start report, (s.load tree start).1 = .ok report →
      (s.load tree start).2.nodeType? = some report.resting ∧ ¬(s.load tree start).2.LeadsIn) ∧
    (∀ type, s.advance.1 = .ok type →
      s.advance.2.nodeType? = some type ∧ ¬s.advance.2.LeadsIn) ∧
    (∀ choice type, (s.choose choice).1 = .ok type →
      (s.choose choice).2.nodeType? = some type ∧ ¬(s.choose choice).2.LeadsIn) ∧
    (∀ i type, (s.jump i).1 = .ok type → (s.jump i).2.nodeType? = some type) ∧
    (∀ tree start e, (s.load tree start).1 = .error e →
      (s.load tree start).2.reader.place = none ∧ (s.load tree start).2.pending? = none) := by
  refine ⟨?_, fun _ _ _ => load_eq_ok, fun _ => advance_eq_ok, fun _ _ => choose_eq_ok,
    fun _ _ => jump_eq_ok, fun _ _ _ he => ?_⟩
  · rcases h.settled with hidle | ⟨c, hc, type, htype, hstop⟩
    · exact .inl ⟨hidle, by simp [pending?, hidle]⟩
    · obtain ⟨p, t, hp, rfl⟩ := conversation?_eq_some.mp hc
      obtain ⟨hplace, htree⟩ := loaded?_eq_some.mp hp
      obtain ⟨n, hn, rfl⟩ := Document.nodeType?_eq_some.mp htype
      obtain ⟨o, ho, hkind⟩ := Document.exists_output hn hstop (Conversation.expand _)
      exact .inr ⟨p, t, n, o, _, hplace, htree, hn, NodeType.isStop_iff.mp hstop,
        (output_conversation hc).trans ho, hkind, snapshot_conversation hc⟩
  · have hidle := load_eq_error he
    exact ⟨hidle, by simp [pending?, hidle]⟩

end Session

/-- A tree that counts how often it is visited before a guest speaks. A host says goodbye. -/
def Document.counted : Document :=
  { name := "counted"
    declared := [{ name := "visits" }]
    nodes :=
      [⟨0, .info { name := "Ann" }, [], []⟩,
        ⟨1, .start 0, [], [⟨2, 0⟩]⟩,
        ⟨2, .edit .int .add { int := 1 }, [⟨1, 0⟩, ⟨3, 1⟩], [⟨4, 0⟩, ⟨4, 1⟩]⟩,
        ⟨3, .variable 0 .int false, [], [⟨2, 1⟩]⟩,
        ⟨4, .dialogue "Hello" (some { name := "Guest" }), [⟨2, 0⟩, ⟨2, 0⟩], [⟨5, 0⟩]⟩,
        ⟨5, .newSpeaker { name := "Host" }, [⟨4, 0⟩], [⟨6, 0⟩]⟩,
        ⟨6, .dialogue "Goodbye" none, [⟨5, 0⟩], [⟨7, 0⟩]⟩,
        ⟨7, .finish, [⟨6, 0⟩], []⟩] }

namespace Session

/-- A reader that has loaded this tree. -/
def counted : Session := (load ⟨⟨[.ofDocument .counted], {}⟩, {}⟩ 0 none).2

theorem counted_reachable : counted.Reachable :=
  .act (.load 0 none) (.new ⟨[.ofDocument .counted], {}⟩)

/-- The visit has been counted, the guest speaks, and Ann is to return. The line of the guest and
the goodbye after it can both be shown. -/
theorem counted_rests :
    counted.reader = ⟨some ⟨0, 4, some { name := "Ann" }⟩, true⟩ ∧
    (counted.library.tree? 0).map (·.locals.get? "visits" .int) = some (some (.int 1)) ∧
    (∃ p t n o snap, counted.reader.place = some p ∧ counted.library.tree? p.tree = some t ∧
      t.document.node? p.cursor = some n ∧
      (n.type = .dialogue ∨ n.type = .branch ∨ n.type = .finish) ∧
      counted.output = .ok o ∧ o.type = n.type ∧ counted.snapshot = .ok snap) ∧
    counted.advance.1 = .ok .dialogue ∧ counted.advance.2.nodeType? = some .dialogue ∧
      ¬counted.advance.2.LeadsIn := by
  have hreader : counted.reader = ⟨some ⟨0, 4, some { name := "Ann" }⟩, true⟩ := by decide
  have hadvance : counted.advance.1 = .ok .dialogue := rfl
  obtain ⟨hplace, -, hgoesOn, -⟩ := Reachable.rests counted_reachable
  exact ⟨hreader, by decide +kernel, hplace.resolve_left (by decide), hadvance,
    hgoesOn .dialogue hadvance⟩

end Session

end DialogueTree
