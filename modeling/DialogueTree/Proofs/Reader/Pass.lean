import DialogueTree.Proofs.Reader.Rest

/-!
# The walk of an action

Loading a tree, going on and answering start one walk each, unless they fail before; nothing else
that a host can ask of a reader walks. Its start is a `Pass`: where the reader comes from and the
node that it visits first.

Results:
* `Session.result?_run`: what comes of the walk is what the reader answers.
* `Session.leads_of_pass?`: there is an edge to the first node.
* `Session.follows_advance`, `Session.follows_choose`, `Session.enters_load`: an action that walks
  settles, or does not even start.
-/

namespace DialogueTree

/-- A walk that starts in a conversation. -/
structure Pass where
  conversation : Conversation
  first : Nat

namespace Pass

/-- The document that is walked through. -/
def document (w : Pass) : Document := w.conversation.document

/-- The visits of the walk. -/
def visits (w : Pass) : List Document.Visit :=
  w.document.visits hopLimit w.conversation.scene w.first

/-- What comes of the walk. -/
def result (w : Pass) : Except ReaderError NodeType := (w.conversation.follow (.ok w.first)).1

end Pass

/-- Where a reader comes to rest or why it does not, if it was asked to go somewhere. -/
def Reply.result? : Reply → Option (Except ReaderError NodeType)
  | loaded r => some (r.map (·.resting))
  | reached r => some r
  | _ => none

namespace Session

variable {s : Session} {w : Pass}

/-- The walk of a reader that follows an exit. -/
def passFrom? (s : Session) (exit : Conversation → Except ReaderError Nat) : Option Pass :=
  s.conversation?.bind fun c => (exit c).toOption.map fun first => ⟨c, first⟩

/-- The walk of a reader that loads a tree, which starts on the start node. -/
def opening? (s : Session) (tree : Nat) (start : Option Int32) : Option Pass :=
  (s.unload.library.tree? tree).bind fun t =>
    (t.document.entry (start.getD t.defaultStart)).toOption.map fun (startNode, first) =>
      let p : Place := { tree := tree, cursor := startNode }
      let scene := Session.scene { s.unload with reader := ⟨some p, false⟩ } p t
      ⟨⟨t.document, startNode, scene⟩, first⟩

/-- The walk that an action makes, if it makes one. -/
def pass? (s : Session) : Action → Option Pass
  | .load tree start => s.opening? tree start
  | .call .advance => s.passFrom? fun c => c.document.onward c.cursor
  | .call (.choose choice) => s.passFrom? fun c => c.document.answered c.cursor choice
  | _ => none

theorem passFrom?_eq_some {exit : Conversation → Except ReaderError Nat} :
    s.passFrom? exit = some w ↔ s.conversation? = some w.conversation ∧
      exit w.conversation = .ok w.first := by
  unfold passFrom?
  constructor
  · intro h
    obtain ⟨c, hc, h⟩ := Option.bind_eq_some_iff.mp h
    obtain ⟨first, hfirst, rfl⟩ := Option.map_eq_some_iff.mp h
    exact ⟨hc, Outcome.toOption_eq_some.mp hfirst⟩
  · rintro ⟨hc, hfirst⟩
    rw [hc, Option.bind_some, hfirst]
    rfl

theorem error_of_passFrom?_eq_none {exit : Conversation → Except ReaderError Nat}
    {c : Conversation} (hc : s.conversation? = some c) (h : s.passFrom? exit = none) :
    ∃ e, exit c = .error e := by
  rw [passFrom?, hc, Option.bind_some, Option.map_eq_none_iff] at h
  exact Outcome.toOption_eq_none.mp h

theorem opening?_eq_some {tree : Nat} {start : Option Int32} :
    s.opening? tree start = some w ↔
      ∃ t startNode, s.unload.library.tree? tree = some t ∧
        t.document.entry (start.getD t.defaultStart) = .ok (startNode, w.first) ∧
        w.conversation = ⟨t.document, startNode, Session.scene
          { s.unload with reader := ⟨some { tree, cursor := startNode }, false⟩ }
          { tree, cursor := startNode } t⟩ := by
  unfold opening?
  constructor
  · intro h
    obtain ⟨t, ht, h⟩ := Option.bind_eq_some_iff.mp h
    obtain ⟨⟨startNode, first⟩, hentry, rfl⟩ := Option.map_eq_some_iff.mp h
    exact ⟨t, startNode, ht, Outcome.toOption_eq_some.mp hentry, rfl⟩
  · rintro ⟨t, startNode, ht, hentry, hw⟩
    rw [ht, Option.bind_some, hentry]
    cases w
    subst hw
    rfl

/-! ## What comes of the walk -/

theorem load_of_opening? {tree : Nat} {start : Option Int32} (h : s.opening? tree start = some w) :
    (s.load tree start).1.map (·.resting) = w.result := by
  obtain ⟨t, startNode, ht, hentry, hw⟩ := opening?_eq_some.mp h
  have hl : loaded? { s.unload with reader := ⟨some { tree, cursor := startNode }, false⟩ } =
      some ({ tree, cursor := startNode }, t) := loaded?_eq_some.mpr ⟨rfl, ht⟩
  have hresult := (settle_conversation hl w.first).1
  unfold Pass.result
  rw [hw, ← hresult]
  unfold load
  dsimp only
  rw [ht]
  dsimp only
  rw [hentry]
  dsimp only
  split
  next hsettle => rw [hsettle]; rfl
  next hsettle => rw [hsettle]; rfl

/-- What comes of the walk is what the reader answers. -/
theorem result?_run {a : Action} (h : s.pass? a = some w) :
    (a.run s).1.result? = some w.result := by
  cases a with
  | load tree start => exact congrArg some (load_of_opening? h)
  | unload | resume => cases h
  | call c =>
    cases c with
    | advance =>
      obtain ⟨hc, hexit⟩ := passFrom?_eq_some.mp h
      have hresult : s.advance.1 = w.result := by
        rw [(advance_conversation hc).1, Conversation.advance, hexit]
        rfl
      exact congrArg some hresult
    | choose choice =>
      obtain ⟨hc, hexit⟩ := passFrom?_eq_some.mp h
      have hresult : (s.choose choice).1 = w.result := by
        rw [(choose_conversation hc choice).1, Conversation.choose, hexit]
        rfl
      exact congrArg some hresult
    | _ => cases h

/-! ## How the walk starts -/

theorem leads_of_onward {d : Document} {cursor first : Nat} (h : d.onward cursor = .ok first) :
    d.Leads cursor first := by
  unfold Document.onward at h
  cases hn : d.node? cursor with
  | none => simp [Document.nodeAt_eq_error.mpr ⟨hn, rfl⟩] at h
  | some n =>
    rw [Document.nodeAt_eq_ok.mpr hn, Outcome.bind_ok] at h
    split at h
    next hout =>
      cases h
      exact Document.leads_of_onlyOutput? hn hout
    · cases h

/-- An answer is taken at a question that has an exit for it. -/
theorem answered_eq_ok {d : Document} {cursor choice first : Nat}
    (h : d.answered cursor choice = .ok first) :
    ∃ n, d.node? cursor = some n ∧ n.outputAt? choice = some first := by
  unfold Document.answered at h
  obtain ⟨n, hn, h⟩ := Outcome.bind_eq_ok.mp h
  refine ⟨n, Document.nodeAt_eq_ok.mp hn, ?_⟩
  split at h
  · split at h
    next hout =>
      cases h
      exact hout
    · cases h
  · cases h

theorem leads_of_answered {d : Document} {cursor choice first : Nat}
    (h : d.answered cursor choice = .ok first) : d.Leads cursor first := by
  obtain ⟨n, hn, hout⟩ := answered_eq_ok h
  exact Document.leads_of_outputAt? hn hout

theorem leads_of_entry {d : Document} {id : Int32} {startNode first : Nat}
    (h : d.entry id = .ok (startNode, first)) : d.Leads startNode first := by
  unfold Document.entry at h
  cases hstart : d.findStart? id with
  | none => simp [hstart] at h
  | some i =>
    obtain ⟨n, hn, -⟩ := Document.node?_of_findStart? hstart
    rw [hstart] at h
    dsimp only at h
    rw [Document.nodeAt_eq_ok.mpr hn, Outcome.bind_ok] at h
    split at h
    next hout =>
      cases h
      exact Document.leads_of_onlyOutput? hn hout
    · cases h

/-- There is an edge to the node that is visited first. -/
theorem leads_of_pass? {a : Action} (h : s.pass? a = some w) :
    w.document.Leads w.conversation.cursor w.first := by
  cases a with
  | load tree start =>
    obtain ⟨t, startNode, -, hentry, hw⟩ := opening?_eq_some.mp h
    unfold Pass.document
    rw [hw]
    exact leads_of_entry hentry
  | unload | resume => cases h
  | call c =>
    cases c with
    | advance => exact leads_of_onward (passFrom?_eq_some.mp h).2
    | choose choice => exact leads_of_answered (passFrom?_eq_some.mp h).2
    | _ => cases h

/-! ## Actions that walk -/

variable {p : Place} {t : Tree}

/-- What comes of a walk is what comes of settling. -/
theorem result_of_settle (hl : s.loaded? = some (p, t))
    (hw : w.conversation = ⟨t.document, p.cursor, s.scene p t⟩) :
    w.result = (s.settle p t w.first).1 := by
  rw [(settle_conversation hl w.first).1, ← hw]
  rfl

/-- Following an exit fails before there is a walk, or is one. -/
inductive Follows (s : Session) (a : Action) : Except ReaderError NodeType × Session → Prop
  | stays {e : ReaderError} : s.pass? a = none → Follows s a (.error e, s)
  | walks {p : Place} {t : Tree} {w : Pass} : s.loaded? = some (p, t) → s.pass? a = some w →
      w.conversation = ⟨t.document, p.cursor, s.scene p t⟩ → Follows s a (s.settle p t w.first)

theorem follows_of_pass? {a : Action} {exit : Document → Nat → Except ReaderError Nat}
    (ha : s.pass? a = s.passFrom? fun c => exit c.document c.cursor) :
    s.Follows a (s.follow exit) := by
  unfold follow
  split
  next hl => exact .stays (by simp [ha, passFrom?, conversation?, hl])
  next p t hl =>
    have hc := conversation?_of_loaded? hl
    split
    next first hexit =>
      exact .walks (w := ⟨_, first⟩) hl (ha.trans (passFrom?_eq_some.mpr ⟨hc, hexit⟩)) rfl
    next hexit => exact .stays (by simp [ha, passFrom?, hc, hexit, Except.toOption])

theorem follows_advance (s : Session) : s.Follows (.call .advance) s.advance :=
  s.advance_eq_follow ▸ follows_of_pass? rfl

theorem follows_choose (s : Session) (choice : Nat) :
    s.Follows (.call (.choose choice)) (s.choose choice) :=
  s.choose_eq_follow choice ▸ follows_of_pass? rfl

/-- The reader on the start node of a tree, where the walk of loading it begins. -/
def entering (s : Session) (tree startNode : Nat) : Session :=
  { s.unload with reader := ⟨some { tree := tree, cursor := startNode }, false⟩ }

/-- Loading a tree fails before there is a walk, or is one; where that fails the reader leaves. -/
inductive Enters (s : Session) (a : Action) (tree : Nat) :
    Except ReaderError LoadReport × Session → Prop
  | stays {e : ReaderError} : s.pass? a = none → Enters s a tree (.error e, s.unload)
  | rests {startNode : Nat} {t : Tree} {w : Pass} {report : LoadReport} {after : Session} :
      (s.entering tree startNode).loaded? = some ({ tree := tree, cursor := startNode }, t) →
      s.pass? a = some w → w.conversation = ⟨t.document, startNode,
        (s.entering tree startNode).scene { tree := tree, cursor := startNode } t⟩ →
      (s.entering tree startNode).settle { tree := tree, cursor := startNode } t w.first =
        (.ok report.resting, after) → Enters s a tree (.ok report, after)
  | fails {startNode : Nat} {t : Tree} {w : Pass} {e : ReaderError} {after : Session} :
      (s.entering tree startNode).loaded? = some ({ tree := tree, cursor := startNode }, t) →
      s.pass? a = some w → w.conversation = ⟨t.document, startNode,
        (s.entering tree startNode).scene { tree := tree, cursor := startNode } t⟩ →
      (s.entering tree startNode).settle { tree := tree, cursor := startNode } t w.first =
        (.error e, after) → Enters s a tree (.error e, after.unload)

theorem enters_load (s : Session) (tree : Nat) (start : Option Int32) :
    s.Enters (.load tree start) tree (s.load tree start) := by
  unfold load
  dsimp only
  split
  next hmissing => exact .stays (by simp [pass?, opening?, hmissing])
  next t ht =>
    split
    next hentry => exact .stays (by simp [pass?, opening?, ht, hentry, Except.toOption])
    next startNode first hentry =>
      have hl : (s.entering tree startNode).loaded? =
          some ({ tree := tree, cursor := startNode }, t) := loaded?_eq_some.mpr ⟨rfl, ht⟩
      have hpass : s.opening? tree start = some ⟨⟨t.document, startNode,
          (s.entering tree startNode).scene { tree := tree, cursor := startNode } t⟩, first⟩ :=
        opening?_eq_some.mpr ⟨t, startNode, ht, hentry, rfl⟩
      split
      next hsettle => exact .rests hl hpass rfl hsettle
      next hsettle => exact .fails hl hpass rfl hsettle

theorem Follows.conversation? {a : Action} {r : Except ReaderError NodeType × Session}
    (h : s.Follows a r) (hpass : s.pass? a = some w) :
    r.2.conversation? = some (w.conversation.follow (.ok w.first)).2 := by
  cases h with
  | stays hnone =>
    rw [hnone] at hpass
    cases hpass
  | walks hl hsome hw =>
    obtain rfl := Option.some.inj (hsome.symm.trans hpass)
    rw [(settle_conversation hl _).2, hw]

theorem Enters.conversation? {a : Action} {tree : Nat}
    {r : Except ReaderError LoadReport × Session} (h : s.Enters a tree r)
    (hpass : s.pass? a = some w) {type : NodeType} (hok : w.result = .ok type) :
    r.2.conversation? = some (w.conversation.follow (.ok w.first)).2 := by
  cases h with
  | stays hnone =>
    rw [hnone] at hpass
    cases hpass
  | rests hl hsome hw hsettle =>
    rename_i startNode t found report after
    have hafter := (settle_conversation hl found.first).2
    rw [hsettle, ← hw] at hafter
    obtain rfl : found = w := Option.some.inj (hsome.symm.trans hpass)
    exact hafter
  | fails hl hsome hw hsettle =>
    obtain rfl := Option.some.inj (hsome.symm.trans hpass)
    rw [result_of_settle hl hw, hsettle] at hok
    cases hok

theorem Follows.exists_pass {a : Action} {r : Except ReaderError NodeType × Session}
    (h : s.Follows a r) {type : NodeType} (hr : r.1 = .ok type) :
    ∃ w, s.pass? a = some w ∧ w.result = .ok type := by
  cases h with
  | stays => cases hr
  | walks hl hpass hw => exact ⟨_, hpass, (result_of_settle hl hw).trans hr⟩

theorem Enters.exists_pass {a : Action} {tree : Nat}
    {r : Except ReaderError LoadReport × Session} (h : s.Enters a tree r) {report : LoadReport}
    (hr : r.1 = .ok report) : ∃ w, s.pass? a = some w ∧ w.result = .ok report.resting := by
  cases h with
  | stays => cases hr
  | rests hl hpass hw hsettle =>
    cases hr
    exact ⟨_, hpass, (result_of_settle hl hw).trans (congrArg Prod.fst hsettle)⟩
  | fails => cases hr

/-- After a walk that comes to rest the reader is in the conversation that it leads to. -/
theorem conversation?_run {a : Action} (h : s.pass? a = some w) {type : NodeType}
    (hok : w.result = .ok type) :
    (a.run s).2.conversation? = some (w.conversation.follow (.ok w.first)).2 := by
  cases a with
  | load tree start => exact (s.enters_load tree start).conversation? h hok
  | unload | resume => cases h
  | call c =>
    cases c with
    | advance => exact s.follows_advance.conversation? h
    | choose choice => exact (s.follows_choose choice).conversation? h
    | _ => cases h

end Session

end DialogueTree
