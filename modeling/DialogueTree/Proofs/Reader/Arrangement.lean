import DialogueTree.Proofs.Document.Arrangement
import DialogueTree.Proofs.Reader.Calls
import DialogueTree.Proofs.Reader.Walk

/-!
# Readers of rearranged documents

In documents that differ only in the arrangement of their links, every walk visits the same nodes
and changes the same state. A host that makes the same requests of readers of both gets the same
answers, but for the order in which the issues of a document are listed.

Results:
* `Document.Rearranged.settle_eq`: a walk through rearranged documents.
* `Action.run_rearranged`: an action of readers of rearranged trees.
* `Session.responses_alike`: any requests, one after another.
-/

namespace DialogueTree

/-! ## Ways and operands -/

namespace Node.Rearranged

variable {n n' : Node}

theorem exit_eq (h : n.Rearranged n') (slot : Nat) : n.exit slot = n'.exit slot := by
  rw [exit, exit, h.outputAt?_eq slot, h.type_eq, h.index]

theorem answerLinks_eq (h : n.Rearranged n') :
    Document.answerLinks n = Document.answerLinks n' :=
  (h.inputs.filter fun slot => decide (0 < slot)).mergeSort_eq

end Node.Rearranged

namespace Document.Rearranged

variable {d d' : Document} {n n' : Node}

/-- An edge leads to a node in both documents or in none. -/
theorem nodeAt_cases (h : d.Rearranged d') (i : Nat) :
    (∃ e, d.nodeAt i = .error e ∧ d'.nodeAt i = .error e) ∨
    ∃ n n', d.nodeAt i = .ok n ∧ d'.nodeAt i = .ok n' ∧ n.Rearranged n' := by
  rcases h.node?_cases i with ⟨hn, hn'⟩ | ⟨n, n', hn, hn', hr⟩
  · refine .inl ⟨_, nodeAt_eq_error.mpr ⟨hn, rfl⟩, nodeAt_eq_error.mpr ⟨hn', ?_⟩⟩
    rw [h.name, h.length_eq]
  · exact .inr ⟨n, n', nodeAt_eq_ok.mpr hn, nodeAt_eq_ok.mpr hn', hr⟩

theorem wired_eq (h : d.Rearranged d') (hn : n.Rearranged n') (slot : Nat) :
    d.wired n slot = d'.wired n' slot := by
  unfold wired
  rw [hn.inputAt?_eq slot, hn.index]
  cases n'.inputAt? slot with
  | none => rfl
  | some source =>
    dsimp only
    rcases h.nodeAt_cases source with ⟨e, hat, hat'⟩ | ⟨m, m', hat, hat', hm⟩
    · rw [hat, hat']
    · rw [hat, hat']
      dsimp only
      rw [hm.content]

theorem operand_eq (h : d.Rearranged d') (hn : n.Rearranged n') (s : Scene) (slot : Nat)
    (type : ValueType) (literal : Slots) :
    s.operand d n slot type literal = s.operand d' n' slot type literal := by
  rw [Scene.operand, Scene.operand, h.wired_eq hn slot]

theorem solve_eq (h : d.Rearranged d') (hn : n.Rearranged n') (s : Scene) :
    s.solve d n = s.solve d' n' := by
  have hlogic (type : ValueType) (c : Comparison) (a b : Slots) :
      s.logic d n type c a b = s.logic d' n' type c a b := by
    simp only [Scene.logic, h.operand_eq hn]
  have hedit (type : ValueType) (c : Change) (b : Slots) :
      s.edit d n type c b = s.edit d' n' type c b := by
    simp only [Scene.edit, h.operand_eq hn, h.wired_eq hn, hn.index]
  unfold Scene.solve
  rw [hn.content, hn.index]
  cases n'.content with
  | logic => simp only [hlogic]
  | edit => simp only [hedit]
  | _ => rfl

/-! ## Walks -/

/-- Where a reader rests, the exits of the node have kept their places or do not matter. -/
theorem restAt_eq (h : d.Rearranged d') (hn : n.Rearranged n') (hstop : n.type.isStop = true)
    (i : Nat) : d.restAt n i = d'.restAt n' i := by
  by_cases hb : n.type = .branch
  · have hb' : n'.type = .branch := hn.type_eq ▸ hb
    simp [restAt, Node.isBranch, hb, hb']
  · have hline : n.type = .dialogue ∨ n.type = .finish := by
      cases htype : n.type <;> simp_all [NodeType.isStop]
    simp only [restAt, hn.isBranch_eq, hn.type_eq, hn.kept hline, h.isBranch_eq]

theorem teleportExit_eq (h : d.Rearranged d') (i : Nat) (id : Int32) :
    d.teleportExit i id = d'.teleportExit i id := by
  unfold teleportExit
  rw [h.teleportOut?_eq id]
  cases d'.teleportOut? id with
  | none => rfl
  | some target =>
    rcases h.nodeAt_cases target with ⟨e, hat, hat'⟩ | ⟨m, m', hat, hat', hm⟩
    · simp only [hat, hat']
    · simp only [hat, hat', Outcome.bind_ok, hm.exit_eq]

theorem enter_eq (h : d.Rearranged d') (hn : n.Rearranged n') (s : Scene) (i : Nat) :
    d.enter s i n = d'.enter s i n' := by
  have hrest (hstop : n.type.isStop = true) := h.restAt_eq hn hstop i
  rw [Node.type, hn.content] at hrest
  unfold enter
  rw [hn.content, hn.type_eq, h.solve_eq hn]
  cases hc : n'.content with
  | finish | branch | dialogue => simp only [hrest (by rw [hc]; rfl)]
  | teleport isIn id => cases isIn <;> simp only [h.teleportExit_eq, hn.exit_eq]
  | newSpeaker | logic | edit | startChange => simp only [hn.exit_eq]
  | _ => rfl

theorem visit_eq (h : d.Rearranged d') (s : Scene) (i : Nat) : d.visit s i = d'.visit s i := by
  unfold visit
  rcases h.nodeAt_cases i with ⟨e, hat, hat'⟩ | ⟨n, n', hat, hat', hn⟩
  · rw [hat, hat']
  · rw [hat, hat']
    exact h.enter_eq hn s.revert i

theorem walk_eq (h : d.Rearranged d') (cursor hops : Nat) (s : Scene) (i : Nat) :
    d.walk cursor hops s i = d'.walk cursor hops s i := by
  induction hops generalizing s i with
  | zero => rw [walk, walk, h.name]
  | succ hops ih =>
    rw [walk, walk, h.visit_eq s i]
    rcases d'.visit s i with ⟨_ | ⟨next | r⟩, after⟩
    · rfl
    · exact ih after next
    · rfl

/-- A walk through rearranged documents. -/
theorem settle_eq (h : d.Rearranged d') (cursor : Nat) (s : Scene) (first : Nat) :
    d.settle cursor s first = d'.settle cursor s first := by
  rw [settle, settle, h.walk_eq]

/-! ## Places of rest -/

theorem entry_eq (h : d.Rearranged d') (id : Int32) : d.entry id = d'.entry id := by
  unfold entry
  rw [h.findStart?_eq id, h.name]
  cases d'.findStart? id with
  | none => rfl
  | some i =>
    rcases h.nodeAt_cases i with ⟨e, hat, hat'⟩ | ⟨n, n', hat, hat', hn⟩
    · simp only [hat, hat']
    · simp only [hat, hat', Outcome.bind_ok, hn.onlyOutput?_eq]

theorem onward_eq (h : d.Rearranged d') (cursor : Nat) : d.onward cursor = d'.onward cursor := by
  unfold onward
  rcases h.nodeAt_cases cursor with ⟨e, hat, hat'⟩ | ⟨n, n', hat, hat', hn⟩
  · simp only [hat, hat']
  · simp only [hat, hat', Outcome.bind_ok, hn.onlyOutput?_eq, hn.type_eq, hn.index,
      hn.outputs.perm.length_eq]

theorem answered_eq (h : d.Rearranged d') (cursor choice : Nat) :
    d.answered cursor choice = d'.answered cursor choice := by
  unfold answered
  rcases h.nodeAt_cases cursor with ⟨e, hat, hat'⟩ | ⟨n, n', hat, hat', hn⟩
  · simp only [hat, hat']
  · simp only [hat, hat', Outcome.bind_ok, hn.isBranch_eq, hn.outputAt?_eq, hn.type_eq]

theorem resting_eq (h : d.Rearranged d') (i : Nat) : d.resting i = d'.resting i := by
  rw [resting, resting, h.nodeType?_eq i, h.name]

theorem output_eq (h : d.Rearranged d') (expand : String → String) (cursor : Nat) :
    d.output expand cursor = d'.output expand cursor := by
  unfold output
  rcases h.nodeAt_cases cursor with ⟨e, hat, hat'⟩ | ⟨n, n', hat, hat', hn⟩
  · rw [hat, hat']
    rfl
  · have hquestion : d.questionText n = d'.questionText n' := by
      simp only [questionText, hn.inputAt?_eq, h.lineText_eq]
    simp only [hat, hat', Outcome.bind_ok, hquestion, hn.answerLinks_eq, h.lineText_eq, hn.content,
      hn.type_eq]

theorem next_eq (h : d.Rearranged d') (i : Nat) :
    ((d.node? i).bind fun n => n.onlyOutput?.bind d.nodeType?) =
      (d'.node? i).bind fun n => n.onlyOutput?.bind d'.nodeType? := by
  rcases h.node?_cases i with ⟨hn, hn'⟩ | ⟨n, n', hn, hn', hr⟩
  · rw [hn, hn']
    rfl
  · rw [hn, hn', Option.bind_some, Option.bind_some, hr.onlyOutput?_eq, funext h.nodeType?_eq]

end Document.Rearranged

/-! ## Trees and libraries -/

/-- Whether two trees in one state have rearranged documents. -/
structure Tree.Rearranged (t t' : Tree) : Prop where
  document : t.document.Rearranged t'.document
  locals : t.locals = t'.locals
  defaultStart : t.defaultStart = t'.defaultStart
  speaker : t.speaker = t'.speaker

theorem Tree.Rearranged.name_eq {t t' : Tree} (h : t.Rearranged t') : t.name = t'.name :=
  h.document.name

theorem Tree.Rearranged.ofDocument {d d' : Document} (h : d.Rearranged d') :
    (Tree.ofDocument d).Rearranged (Tree.ofDocument d') :=
  ⟨h, congrArg Store.mk h.declared, h.defaultStart, h.defaultSpeaker_eq⟩

/-- Whether two libraries have the same variables and rearranged trees. -/
structure Library.Rearranged (l l' : Library) : Prop where
  trees : List.Forall₂ Tree.Rearranged l.trees l'.trees
  globals : l.globals = l'.globals

namespace Library.Rearranged

variable {l l' : Library}

/-- At each position both libraries have a tree or none has. -/
theorem tree?_cases (h : l.Rearranged l') (i : Nat) :
    l.tree? i = none ∧ l'.tree? i = none ∨
    ∃ t t', l.tree? i = some t ∧ l'.tree? i = some t' ∧ t.Rearranged t' := by
  have hlength := h.trees.length_eq
  by_cases hi : i < l.trees.length
  · exact .inr ⟨_, _, List.getElem?_eq_getElem hi, List.getElem?_eq_getElem (hlength ▸ hi),
      h.trees.get hi (hlength ▸ hi)⟩
  · rw [Nat.not_lt] at hi
    exact .inl ⟨List.getElem?_eq_none hi, List.getElem?_eq_none (hlength ▸ hi)⟩

theorem modifyTree (h : l.Rearranged l') (i : Nat) {f : Tree → Tree}
    (hf : ∀ t t', t.Rearranged t' → (f t).Rearranged (f t')) :
    (l.modifyTree i f).Rearranged (l'.modifyTree i f) := by
  refine ⟨?_, h.globals⟩
  have htrees := h.trees
  rw [Library.modifyTree, Library.modifyTree]
  dsimp only
  generalize l.trees = ts, l'.trees = ts' at htrees ⊢
  induction htrees generalizing i with
  | nil => rw [List.modify_nil]; exact .nil
  | cons ht hrest ih =>
    cases i with
    | zero => exact .cons (hf _ _ ht) hrest
    | succ i => exact .cons ht (ih i)

theorem withGlobals (h : l.Rearranged l') (store : Store) :
    Rearranged { l with globals := store } { l' with globals := store } := ⟨h.trees, rfl⟩

end Library.Rearranged

/-! ## Sessions -/

namespace Session

/-- Whether two sessions differ only in the arrangement of links in the documents. -/
structure Rearranged (s s' : Session) : Prop where
  library : s.library.Rearranged s'.library
  reader : s.reader = s'.reader

variable {s s' : Session} {p : Place} {t t' : Tree}

namespace Rearranged

/-- Both readers rest in a tree or none does. -/
theorem loaded?_cases (h : s.Rearranged s') :
    s.loaded? = none ∧ s'.loaded? = none ∨
    ∃ p t t', s.loaded? = some (p, t) ∧ s'.loaded? = some (p, t') ∧ t.Rearranged t' := by
  unfold loaded?
  rw [h.reader]
  cases s'.reader.place with
  | none => exact .inl ⟨rfl, rfl⟩
  | some p =>
    rcases h.library.tree?_cases p.tree with ⟨ht, ht'⟩ | ⟨t, t', ht, ht', hr⟩
    · exact .inl ⟨by simp [ht], by simp [ht']⟩
    · exact .inr ⟨p, t, t', by simp [ht], by simp [ht'], hr⟩

theorem scene_eq (h : s.Rearranged s') (ht : t.Rearranged t') (p : Place) :
    s.scene p t = s'.scene p t' := by
  rw [scene, scene, ht.locals, ht.defaultStart, ht.speaker, h.library.globals, h.reader]

theorem setting_eq (h : s.Rearranged s') (ht : t.Rearranged t') : s.setting t = s'.setting t' := by
  rw [setting, setting, ht.locals, ht.speaker, h.library.globals]

theorem withScene (h : s.Rearranged s') (tree cursor : Nat) (after : Scene) :
    (s.withScene tree cursor after).Rearranged (s'.withScene tree cursor after) := by
  have htrees := h.library.modifyTree tree (f := fun t => { t with
    locals := after.locals, defaultStart := after.defaultStart, speaker := after.speaker })
    fun _ _ ht => ⟨ht.document, rfl, rfl, rfl⟩
  exact ⟨htrees.withGlobals after.globals, rfl⟩

theorem withReader (h : s.Rearranged s') (r : Reader) :
    Rearranged { s with reader := r } { s' with reader := r } := ⟨h.library, rfl⟩

theorem settle (h : s.Rearranged s') (ht : t.Rearranged t') (p : Place) (first : Nat) :
    Agree Rearranged (s.settle p t first) (s'.settle p t' first) := by
  unfold Session.settle
  rw [ht.document.settle_eq, h.scene_eq ht]
  rcases t'.document.settle p.cursor (s'.scene p t') first with ⟨_ | r, after⟩
  · exact ⟨rfl, h.withScene _ _ _⟩
  · exact ⟨rfl, h.withScene _ _ _⟩

theorem unload (h : s.Rearranged s') : s.unload.Rearranged s'.unload := by
  unfold Session.unload
  rw [h.reader]
  refine ⟨?_, rfl⟩
  dsimp only
  split
  · exact h.library.modifyTree _ fun _ _ ht => ⟨ht.document, ht.locals, ht.defaultStart, rfl⟩
  · exact h.library

/-! ## Moving -/

theorem follow (h : s.Rearranged s') {exit : Document → Nat → Except ReaderError Nat}
    (hexit : ∀ d d', d.Rearranged d' → ∀ cursor, exit d cursor = exit d' cursor) :
    Agree Rearranged (s.follow exit) (s'.follow exit) := by
  unfold Session.follow
  rcases h.loaded?_cases with ⟨hl, hl'⟩ | ⟨p, t, t', hl, hl', ht⟩
  · rw [hl, hl']
    exact ⟨rfl, h⟩
  · rw [hl, hl']
    dsimp only
    rw [hexit _ _ ht.document]
    cases exit t'.document p.cursor with
    | error e => exact ⟨rfl, h⟩
    | ok first => exact h.settle ht p first

theorem advance (h : s.Rearranged s') : Agree Rearranged s.advance s'.advance :=
  h.follow fun _ _ hd => hd.onward_eq

theorem choose (h : s.Rearranged s') (choice : Nat) :
    Agree Rearranged (s.choose choice) (s'.choose choice) :=
  h.follow fun _ _ hd cursor => hd.answered_eq cursor choice

theorem jump (h : s.Rearranged s') (i : Nat) : Agree Rearranged (s.jump i) (s'.jump i) := by
  unfold Session.jump
  rcases h.loaded?_cases with ⟨hl, hl'⟩ | ⟨p, t, t', hl, hl', ht⟩
  · rw [hl, hl']
    exact ⟨rfl, h⟩
  · rw [hl, hl']
    dsimp only
    rw [ht.document.resting_eq]
    cases t'.document.resting i with
    | error e => exact ⟨rfl, h⟩
    | ok type =>
      refine ⟨rfl, h.library, ?_⟩
      dsimp only
      rw [h.reader]

theorem resume (h : s.Rearranged s') (i : Nat) (snap : Snapshot) :
    Agree Rearranged (s.resume i snap) (s'.resume i snap) := by
  unfold Session.resume
  rcases h.library.tree?_cases i with ⟨ht, ht'⟩ | ⟨t, t', ht, ht', hr⟩
  · rw [ht, ht']
    exact ⟨rfl, h⟩
  · have hrefusal : refusal? t snap = refusal? t' snap := by
      rw [refusal?, refusal?, hr.name_eq, hr.document.nodeType?_eq]
    rw [ht, ht']
    dsimp only
    rw [hrefusal]
    cases refusal? t' snap with
    | some e => exact ⟨rfl, h⟩
    | none => exact ⟨rfl, h.unload.withScene _ _ _⟩

/-! ## Looking -/

theorem output_eq (h : s.Rearranged s') : s.output = s'.output := by
  unfold output
  rcases h.loaded?_cases with ⟨hl, hl'⟩ | ⟨p, t, t', hl, hl', ht⟩
  · rw [hl, hl']
  · rw [hl, hl']
    dsimp only
    rw [h.setting_eq ht, ht.document.output_eq]

theorem snapshot_eq (h : s.Rearranged s') : s.snapshot = s'.snapshot := by
  unfold snapshot
  rcases h.loaded?_cases with ⟨hl, hl'⟩ | ⟨p, t, t', hl, hl', ht⟩
  · rw [hl, hl']
  · rw [hl, hl']
    simp only [ht.name_eq, ht.defaultStart, ht.speaker, ht.locals, h.reader,
      h.library.globals]

theorem cursor?_eq (h : s.Rearranged s') : s.cursor? = s'.cursor? := by
  unfold cursor?
  rcases h.loaded?_cases with ⟨hl, hl'⟩ | ⟨p, t, t', hl, hl', -⟩
  · rw [hl, hl']
  · rw [hl, hl']
    rfl

theorem nodeType?_eq (h : s.Rearranged s') : s.nodeType? = s'.nodeType? := by
  unfold nodeType?
  rcases h.loaded?_cases with ⟨hl, hl'⟩ | ⟨p, t, t', hl, hl', ht⟩
  · rw [hl, hl']
  · rw [hl, hl']
    exact ht.document.nodeType?_eq p.cursor

theorem nextType?_eq (h : s.Rearranged s') : s.nextType? = s'.nextType? := by
  unfold nextType?
  rcases h.loaded?_cases with ⟨hl, hl'⟩ | ⟨p, t, t', hl, hl', ht⟩
  · rw [hl, hl']
  · rw [hl, hl']
    exact ht.document.next_eq p.cursor

theorem tree?_cases (h : s.Rearranged s') :
    s.tree? = none ∧ s'.tree? = none ∨
    ∃ t t', s.tree? = some t ∧ s'.tree? = some t' ∧ t.Rearranged t' := by
  unfold tree?
  rcases h.loaded?_cases with ⟨hl, hl'⟩ | ⟨p, t, t', hl, hl', ht⟩
  · exact .inl ⟨by rw [hl]; rfl, by rw [hl']; rfl⟩
  · exact .inr ⟨t, t', by rw [hl]; rfl, by rw [hl']; rfl, ht⟩

theorem expand_eq (h : s.Rearranged s') (text : String) : s.expand text = s'.expand text := by
  unfold expand
  rcases h.tree?_cases with ⟨ht, ht'⟩ | ⟨t, t', ht, ht', hr⟩
  · rw [ht, ht']
  · simp only [ht, ht', h.setting_eq hr]

theorem speakerName?_eq (h : s.Rearranged s') : s.speakerName? = s'.speakerName? := by
  unfold speakerName?
  rcases h.tree?_cases with ⟨ht, ht'⟩ | ⟨t, t', ht, ht', hr⟩
  · rw [ht, ht', Option.map_none, Option.map_none]
  · rw [ht, ht', Option.map_some, Option.map_some, h.setting_eq hr, hr.speaker]

theorem locals_eq (h : s.Rearranged s') : s.locals = s'.locals := by
  unfold locals
  rcases h.tree?_cases with ⟨ht, ht'⟩ | ⟨t, t', ht, ht', hr⟩
  · rw [ht, ht', Option.map_none]
  · rw [ht, ht', Option.map_some, Option.map_some, hr.locals]

/-! ## Speaker and variables -/

theorem modifyTree (h : s.Rearranged s') {f : Tree → Tree}
    (hf : ∀ t t', t.Rearranged t' → (f t).Rearranged (f t')) :
    (s.modifyTree f).Rearranged (s'.modifyTree f) := by
  unfold Session.modifyTree
  rcases h.loaded?_cases with ⟨hl, hl'⟩ | ⟨p, t, t', hl, hl', -⟩
  · rw [hl, hl']
    exact h
  · rw [hl, hl']
    exact ⟨h.library.modifyTree p.tree hf, h.reader⟩

theorem takeSpeakerChanged (h : s.Rearranged s') :
    Agree Rearranged s.takeSpeakerChanged s'.takeSpeakerChanged := by
  refine ⟨congrArg Reader.speakerChanged h.reader, h.library, ?_⟩
  rw [Session.takeSpeakerChanged, Session.takeSpeakerChanged]
  dsimp only
  rw [h.reader]

theorem changeSpeaker (h : s.Rearranged s') (speaker : Speaker) :
    Agree Rearranged (s.changeSpeaker speaker) (s'.changeSpeaker speaker) := by
  unfold Session.changeSpeaker
  rcases h.loaded?_cases with ⟨hl, hl'⟩ | ⟨p, t, t', hl, hl', -⟩
  · rw [hl, hl']
    exact ⟨rfl, h⟩
  · rw [hl, hl']
    exact ⟨rfl, h.modifyTree fun _ _ ht => ⟨ht.document, ht.locals, ht.defaultStart, rfl⟩⟩

theorem tryLocals (h : s.Rearranged s') (f : Store → Option Store) :
    Agree Rearranged (s.tryLocals f) (s'.tryLocals f) := by
  have hlocals : (s.tree?.bind fun t => f t.locals) = s'.tree?.bind fun t => f t.locals := by
    rcases h.tree?_cases with ⟨ht, ht'⟩ | ⟨t, t', ht, ht', hr⟩
    · rw [ht, ht']
    · rw [ht, ht', Option.bind_some, Option.bind_some, hr.locals]
  unfold Session.tryLocals
  rw [hlocals]
  split
  · exact ⟨rfl, h.modifyTree fun _ _ ht => ⟨ht.document, rfl, ht.defaultStart, ht.speaker⟩⟩
  · exact ⟨rfl, h⟩

end Rearranged

end Session

/-! ## Actions -/

/-- Whether two replies differ at most in the order of the issues that are told when a tree is
loaded. -/
inductive Reply.Alike : Reply → Reply → Prop
  | loaded {r : LoadReport} {issues : List Issue} : r.issues.Perm issues →
      Alike (.loaded (.ok r)) (.loaded (.ok { r with issues := issues }))
  | same (r : Reply) : Alike r r

theorem Reply.Alike.of_eq {r r' : Reply} (h : r = r') : r.Alike r' := h ▸ .same r

variable {s s' : Session}

theorem Call.run_rearranged (h : s.Rearranged s') (c : Call) :
    Session.Agree Session.Rearranged (c.run s) (c.run s') := by
  cases c with
  | advance => exact h.advance.map Reply.reached
  | choose choice => exact (h.choose choice).map Reply.reached
  | jump i => exact (h.jump i).map Reply.reached
  | output => exact ⟨congrArg Reply.shown h.output_eq, h⟩
  | expand text => exact ⟨congrArg Reply.expanded (h.expand_eq text), h⟩
  | speakerName => exact ⟨congrArg Reply.name h.speakerName?_eq, h⟩
  | takeSpeakerChanged => exact h.takeSpeakerChanged.map Reply.flag
  | changeSpeaker speaker => exact (h.changeSpeaker speaker).map Reply.done
  | getVariable name type =>
    exact ⟨congrArg (fun l : Store => Reply.value (l.get? name type)) h.locals_eq, h⟩
  | setVariable name v => exact (h.tryLocals _).map Reply.flag
  | addVariable v => exact (h.tryLocals _).map Reply.flag
  | removeVariable name => exact (h.tryLocals _).map Reply.flag
  | snapshot => exact ⟨congrArg Reply.saved h.snapshot_eq, h⟩

theorem Session.Rearranged.load (h : s.Rearranged s') (tree : Nat) (start : Option Int32) :
    Reply.Alike (.loaded (s.load tree start).1) (.loaded (s'.load tree start).1) ∧
      (s.load tree start).2.Rearranged (s'.load tree start).2 := by
  have hidle := h.unload
  unfold Session.load
  dsimp only
  rcases hidle.library.tree?_cases tree with ⟨ht, ht'⟩ | ⟨t, t', ht, ht', hr⟩
  · rw [ht, ht']
    exact ⟨.same _, hidle⟩
  · rw [ht, ht']
    dsimp only
    rw [hr.defaultStart, hr.document.entry_eq]
    rcases t'.document.entry (start.getD t'.defaultStart) with e | ⟨startNode, first⟩
    · exact ⟨.same _, hidle⟩
    · dsimp only
      have hwalk := (hidle.withReader ⟨some { tree, cursor := startNode }, false⟩).settle hr
        { tree, cursor := startNode } first
      generalize Session.settle _ _ t first = x, Session.settle _ _ t' first = x' at hwalk ⊢
      obtain ⟨hresult, hafter⟩ := hwalk
      obtain ⟨result, after⟩ := x
      obtain ⟨result', after'⟩ := x'
      obtain rfl : result = result' := hresult
      cases result with
      | error e => exact ⟨.same _, hafter.unload⟩
      | ok resting =>
        dsimp only
        rw [hr.name_eq]
        exact ⟨.loaded hr.document.issues_perm, hafter⟩

/-- An action of readers of rearranged trees. -/
theorem Action.run_rearranged (h : s.Rearranged s') (a : Action) :
    (a.run s).1.Alike (a.run s').1 ∧ (a.run s).2.Rearranged (a.run s').2 := by
  cases a with
  | load tree start => exact h.load tree start
  | unload => exact ⟨.same _, h.unload⟩
  | resume tree snap => exact ((h.resume tree snap).map Reply.done).imp_left .of_eq
  | call c => exact (c.run_rearranged h).imp_left .of_eq

/-! ## Requests -/

/-- What a host can have a reader do, or find out about it. -/
inductive Request where
  | act (a : Action)
  | cursor
  | nodeType
  | nextType

/-- What the host is told. -/
inductive Response where
  | reply (r : Reply)
  | position (i : Option Nat)
  | type (t : Option NodeType)

/-- Whether two responses differ at most in the order of issues. -/
inductive Response.Alike : Response → Response → Prop
  | reply {r r' : Reply} : r.Alike r' → Alike (.reply r) (.reply r')
  | same (r : Response) : Alike r r

theorem Response.Alike.of_eq {r r' : Response} (h : r = r') : r.Alike r' := h ▸ .same r

/-- What a session does on a request. -/
def Request.run (s : Session) : Request → Response × Session
  | act a => (.reply (a.run s).1, (a.run s).2)
  | cursor => (.position s.cursor?, s)
  | nodeType => (.type s.nodeType?, s)
  | nextType => (.type s.nextType?, s)

theorem Request.run_rearranged (h : s.Rearranged s') (q : Request) :
    (q.run s).1.Alike (q.run s').1 ∧ (q.run s).2.Rearranged (q.run s').2 := by
  cases q with
  | act a => exact (a.run_rearranged h).imp_left .reply
  | cursor => exact ⟨.of_eq (congrArg Response.position h.cursor?_eq), h⟩
  | nodeType => exact ⟨.of_eq (congrArg Response.type h.nodeType?_eq), h⟩
  | nextType => exact ⟨.of_eq (congrArg Response.type h.nextType?_eq), h⟩

namespace Session

/-- What a reader responds to requests one after another. -/
def responses (s : Session) : List Request → List Response
  | [] => []
  | q :: rest => (q.run s).1 :: (q.run s).2.responses rest

/-- Readers of trees that differ only in the arrangement of links respond alike to any requests. -/
theorem responses_alike (h : s.Rearranged s') (requests : List Request) :
    List.Forall₂ Response.Alike (s.responses requests) (s'.responses requests) := by
  induction requests generalizing s s' with
  | nil => exact .nil
  | cons q rest ih =>
    obtain ⟨hresponse, hafter⟩ := q.run_rearranged h
    exact .cons hresponse (ih hafter)

end Session

/-! ## A question with its links rearranged -/

/-- A question with two answers, whose links are listed in some order. -/
def Document.taproom (inputs outputs : List Link) : Document where
  name := "taproom"
  nodes := [
    ⟨0, .info { name := "Host" }, [], []⟩,
    ⟨1, .start 0, [], [⟨2, 0⟩]⟩,
    ⟨2, .dialogue "Ale or wine?" none, [⟨1, 0⟩], [⟨3, 0⟩]⟩,
    ⟨3, .branch 3 2, inputs, outputs⟩,
    ⟨4, .dialogue "Ale" none, [], [⟨3, 1⟩]⟩,
    ⟨5, .dialogue "Wine" none, [], [⟨3, 2⟩]⟩,
    ⟨6, .finish, [⟨3, 0⟩], []⟩,
    ⟨7, .finish, [⟨3, 1⟩], []⟩]

/-- A new reader of a library that has this question. -/
def Session.taproom (inputs outputs : List Link) : Session :=
  { library := { trees := [.ofDocument (.taproom inputs outputs)] } }

/-- The answers are the same wherever the links to them are listed, and lead to the same ends. -/
theorem Session.responses_taproom_alike :
    let s := taproom [⟨2, 0⟩, ⟨4, 1⟩, ⟨5, 2⟩] [⟨6, 0⟩, ⟨7, 1⟩]
    let s' := taproom [⟨5, 2⟩, ⟨2, 0⟩, ⟨4, 1⟩] [⟨7, 1⟩, ⟨6, 0⟩]
    let requests := [.act (.load 0 none), .act (.call .output), .act (.call (.choose 1)), .cursor]
    s.Rearranged s' ∧
    List.Forall₂ Response.Alike (s.responses requests) (s'.responses requests) := by
  have hinputs : Link.Rearranged [⟨2, 0⟩, ⟨4, 1⟩, ⟨5, 2⟩] [⟨5, 2⟩, ⟨2, 0⟩, ⟨4, 1⟩] :=
    ((Link.Rearranged.swap (by decide) []).cons _).trans (.swap (by decide) _)
  have houtputs : Link.Rearranged [⟨6, 0⟩, ⟨7, 1⟩] [⟨7, 1⟩, ⟨6, 0⟩] := .swap (by decide) []
  have hdocument : (Document.taproom [⟨2, 0⟩, ⟨4, 1⟩, ⟨5, 2⟩] [⟨6, 0⟩, ⟨7, 1⟩]).Rearranged
      (Document.taproom [⟨5, 2⟩, ⟨2, 0⟩, ⟨4, 1⟩] [⟨7, 1⟩, ⟨6, 0⟩]) :=
    ⟨rfl, rfl, rfl, .cons (.refl _) (.cons (.refl _) (.cons (.refl _)
      (.cons ⟨rfl, rfl, hinputs, houtputs, by decide⟩ (List.forall₂_same.mpr fun n _ => .refl n))))⟩
  have hsessions : (taproom [⟨2, 0⟩, ⟨4, 1⟩, ⟨5, 2⟩] [⟨6, 0⟩, ⟨7, 1⟩]).Rearranged
      (taproom [⟨5, 2⟩, ⟨2, 0⟩, ⟨4, 1⟩] [⟨7, 1⟩, ⟨6, 0⟩]) :=
    ⟨⟨.cons (.ofDocument hdocument) .nil, rfl⟩, rfl⟩
  exact ⟨hsessions, responses_alike hsessions _⟩

end DialogueTree
