import DialogueTree.Proofs.Reader.Rollback

/-!
# What readers share

A reader at home in a tree touches nothing of its library but that tree, and the variables that all
trees share. What it is told, and what becomes of the tree and the variables, depends on nothing
else either. Where no change of a document is wired to a shared variable, the reader does not even
touch those.

Results:
* `Document.SparesShared.globals_settle`: walks that leave the shared variables alone.
* `Session.KeepsTo.run`: what an action of a reader in its own tree leaves alone.
* `Session.SameFrom.run`: what such an action depends on.
-/

namespace DialogueTree

/-! ## Changes of shared variables -/

/-- Whether a write is to a variable that all trees share. -/
def Write.isShared : Write → Bool
  | slot isGlobal _ _ => isGlobal
  | start _ => false

theorem Memory.globals_after {m : Memory} {ws : List Write} (h : ∀ w ∈ ws, w.isShared = false) :
    (m.after ws).globals = m.globals := by
  induction ws generalizing m with
  | nil => rfl
  | cons w rest ih =>
    obtain ⟨hw, hrest⟩ := List.forall_mem_cons.mp h
    refine (ih hrest : ((m.apply w).after rest).globals = _).trans ?_
    cases w with
    | start => rfl
    | slot isGlobal position v =>
      obtain rfl : isGlobal = false := hw
      rfl

/-- Whether a node stands for a variable that all trees share. -/
def Content.isShared : Content → Bool
  | .variable _ _ isGlobal => isGlobal
  | _ => false

namespace Document

variable {d : Document} {s : Scene} {i : Nat}

/-- Whether no change in a document is wired to a variable that all trees share. -/
def SparesShared (d : Document) : Prop :=
  ∀ n ∈ d.nodes, n.type = .edit → ∀ source ∈ n.inputAt? operandSlotA,
    ∀ target ∈ d.node? source, target.content.isShared = false

instance : Decidable d.SparesShared := inferInstanceAs (Decidable (∀ n ∈ d.nodes, _))

theorem SparesShared.isShared_of_write? (h : d.SparesShared) {n : Node} (hn : n ∈ d.nodes)
    {w : Write} (hw : s.write? d n = some w) : w.isShared = false := by
  cases Scene.makes_of_write? hw with
  | slot hc hsource hm hvariable =>
    have htype : n.type = .edit := by simp [Node.type, hc, Content.type]
    have hlocal := h n hn htype _ hsource _ hm
    rwa [hvariable] at hlocal
  | start => rfl

theorem SparesShared.globals_walk (h : d.SparesShared) (cursor hops : Nat) (s : Scene) (i : Nat) :
    (d.walk cursor hops s i).2.globals = s.globals := by
  have hmemory := congrArg Memory.globals (d.memory_walk cursor hops s i)
  refine hmemory.trans (Memory.globals_after fun w hw => ?_)
  obtain ⟨v, -, n, hn, -, hwrite⟩ := exists_visit_of_mem_writes hw
  exact h.isShared_of_write? (List.mem_of_getElem? hn) hwrite

/-- A walk leaves the shared variables alone if no change on it is wired to one. -/
theorem SparesShared.globals_settle (h : d.SparesShared) (cursor : Nat) (s : Scene) (first : Nat) :
    (d.settle cursor s first).2.globals = s.globals := by
  have hwalk := h.globals_walk cursor hopLimit s first
  unfold settle
  split
  next hreached =>
    rw [hreached] at hwalk
    exact hwalk
  next hreached =>
    rw [hreached] at hwalk
    exact hwalk

end Document

/-- Whether a reader is idle or rests in the tree at a position of the library. -/
def Reader.IsAt (r : Reader) (home : Nat) : Prop := ∀ p, r.place = some p → p.tree = home

theorem Reader.isAt_of_idle {r : Reader} (h : r.place = none) (home : Nat) : r.IsAt home := by
  intro p hp
  rw [h] at hp
  cases hp

theorem Reader.isAt_of_place {r : Reader} {p : Place} {home : Nat} (h : r.place = some p)
    (hhome : p.tree = home) : r.IsAt home := by
  intro q hq
  obtain rfl : p = q := Option.some.inj (h.symm.trans hq)
  exact hhome

theorem Session.isAt_settle (s : Session) (p : Place) (t : Tree) (first : Nat) :
    (s.settle p t first).2.reader.IsAt p.tree := by
  unfold settle
  split <;> exact Reader.isAt_of_place rfl rfl

/-- Whether an action takes a reader into no other tree than that at a position of the library. -/
def Action.StaysAt (home : Nat) : Action → Prop
  | load tree _ => tree = home
  | resume .. => False
  | unload | call _ => True

namespace Session

variable {s s' : Session} {home i : Nat} {p : Place} {t : Tree}

/-! ## What is left alone -/

/-- Whether the document at a position of the library leaves the shared variables alone. -/
def SparesShared (s : Session) (home : Nat) : Prop :=
  ∀ d, s.library.documents[home]? = some d → d.SparesShared

theorem SparesShared.document (h : s.SparesShared home) (ht : s.library.tree? home = some t) :
    t.document.SparesShared :=
  h _ (by rw [Library.documents_getElem?, ht]; rfl)

/-- Whether from one session to the next a reader that is at home in a tree has stayed there, and
nothing else has changed than the reader and its tree. -/
structure KeepsTo (home : Nat) (s s' : Session) : Prop where
  isAt : s'.reader.IsAt home
  others : ∀ i ≠ home, s'.library.tree? i = s.library.tree? i
  globals : s'.library.globals = s.library.globals

namespace KeepsTo

theorem refl (h : s.reader.IsAt home) : KeepsTo home s s := ⟨h, fun _ _ => rfl, rfl⟩

theorem trans {s'' : Session} (h : KeepsTo home s s') (h' : KeepsTo home s' s'') :
    KeepsTo home s s'' :=
  ⟨h'.isAt, fun i hi => (h'.others i hi).trans (h.others i hi), h'.globals.trans h.globals⟩

theorem withScene {after : Scene} (h : after.globals = s.library.globals) (home cursor : Nat) :
    KeepsTo home s (s.withScene home cursor after) :=
  ⟨Reader.isAt_of_place rfl rfl, fun _ hi => s.tree?_withScene_of_ne (Ne.symm hi) cursor after, h⟩

theorem settle (hspares : t.document.SparesShared) (p : Place) (first : Nat) :
    KeepsTo p.tree s (s.settle p t first).2 := by
  have hglobals := hspares.globals_settle p.cursor (s.scene p t) first
  unfold Session.settle
  generalize t.document.settle p.cursor (s.scene p t) first = x at hglobals ⊢
  obtain ⟨_ | r, after⟩ := x
  · exact withScene hglobals p.tree p.cursor
  · exact withScene hglobals p.tree r.cursor

theorem unload (h : s.reader.IsAt home) : KeepsTo home s s.unload := by
  refine ⟨Reader.isAt_of_idle rfl home, fun i hi => ?_, ?_⟩
  · unfold Session.unload
    dsimp only
    split
    next tree cursor speaker hplace =>
      obtain rfl : tree = home := h _ hplace
      rw [Library.tree?_modifyTree, if_neg (Ne.symm hi)]
    next => rfl
  · unfold Session.unload
    dsimp only
    split <;> rfl

theorem modifyTree (h : s.reader.IsAt home) (f : Tree → Tree) :
    KeepsTo home s (s.modifyTree f) := by
  unfold Session.modifyTree
  split
  next p t hl =>
    obtain rfl : p.tree = home := h p (loaded?_eq_some.mp hl).1
    exact ⟨h, fun i hi => by rw [Library.tree?_modifyTree, if_neg (Ne.symm hi)], rfl⟩
  next => exact refl h

theorem follows {a : Action} {r : Except ReaderError NodeType × Session} (h : s.reader.IsAt home)
    (hspares : s.SparesShared home) (hr : s.Follows a r) : KeepsTo home s r.2 := by
  cases hr with
  | stays => exact refl h
  | walks hl =>
    obtain ⟨hplace, ht⟩ := loaded?_eq_some.mp hl
    obtain rfl := h _ hplace
    exact settle (hspares.document ht) _ _

theorem enters {a : Action} {r : Except ReaderError LoadReport × Session}
    (h : s.reader.IsAt home) (hspares : s.SparesShared home) (hr : s.Enters a home r) :
    KeepsTo home s r.2 := by
  have hentering (startNode : Nat) : KeepsTo home s (s.entering home startNode) := by
    obtain ⟨-, hothers, hglobals⟩ := unload h
    exact ⟨Reader.isAt_of_place rfl rfl, hothers, hglobals⟩
  have hwalk {startNode : Nat} {t : Tree} (first : Nat)
      (hl : (s.entering home startNode).loaded? = some ({ tree := home, cursor := startNode }, t)) :
      KeepsTo home s
        ((s.entering home startNode).settle { tree := home, cursor := startNode } t first).2 := by
    refine (hentering startNode).trans (settle ?_ { tree := home, cursor := startNode } first)
    have hdocuments : (s.entering home startNode).library.documents = s.library.documents :=
      s.documents_unload
    have hspares' : (s.entering home startNode).SparesShared home := by
      rwa [SparesShared, hdocuments]
    exact hspares'.document (loaded?_eq_some.mp hl).2
  cases hr with
  | stays => exact unload h
  | @rests startNode t w _ _ hl _ _ hsettle =>
    have hkept := hwalk w.first hl
    rwa [hsettle] at hkept
  | @fails startNode t w _ _ hl _ _ hsettle =>
    have hkept := hwalk w.first hl
    rw [hsettle] at hkept
    exact hkept.trans (unload hkept.isAt)

theorem call (h : s.reader.IsAt home) (hspares : s.SparesShared home) (c : Call) :
    KeepsTo home s (c.run s).2 := by
  have htry (f : Store → Option Store) : KeepsTo home s (s.tryLocals f).2 := by
    unfold tryLocals
    split
    · exact modifyTree h _
    · exact refl h
  cases c with
  | advance => exact follows h hspares s.follows_advance
  | choose choice => exact follows h hspares (s.follows_choose choice)
  | jump i =>
    unfold Call.run jump
    dsimp only
    split
    next => exact refl h
    next p t hl =>
      split
      next =>
        obtain rfl := h p (loaded?_eq_some.mp hl).1
        exact ⟨Reader.isAt_of_place rfl rfl, fun _ _ => rfl, rfl⟩
      next => exact refl h
  | changeSpeaker speaker =>
    unfold Call.run changeSpeaker
    dsimp only
    split
    · exact refl h
    · exact modifyTree h _
  | setVariable | addVariable | removeVariable => exact htry _
  | takeSpeakerChanged => exact ⟨h, fun _ _ => rfl, rfl⟩
  | output | expand | speakerName | getVariable | snapshot => exact refl h

/-- An action of a reader in its own tree leaves the other trees and the shared variables alone. -/
theorem run (h : s.reader.IsAt home) (hspares : s.SparesShared home) {a : Action}
    (ha : a.StaysAt home) : KeepsTo home s (a.run s).2 := by
  cases a with
  | load tree start =>
    obtain rfl : tree = home := ha
    exact enters h hspares (s.enters_load tree start)
  | unload => exact unload h
  | resume => cases ha
  | call c => exact call h hspares c

end KeepsTo

/-! ## What there is to see -/

/-- Whether two sessions are the same to a reader that is at home in a tree. -/
structure SameFrom (home : Nat) (s s' : Session) : Prop where
  reader : s.reader = s'.reader
  tree : s.library.tree? home = s'.library.tree? home
  globals : s.library.globals = s'.library.globals

namespace SameFrom

theorem refl (home : Nat) (s : Session) : SameFrom home s s := ⟨rfl, rfl, rfl⟩

theorem trans {s'' : Session} (h : SameFrom home s s') (h' : SameFrom home s' s'') :
    SameFrom home s s'' :=
  ⟨h.reader.trans h'.reader, h.tree.trans h'.tree, h.globals.trans h'.globals⟩

theorem loaded?_eq (h : SameFrom home s s') (hs : s.reader.IsAt home) : s.loaded? = s'.loaded? := by
  unfold loaded?
  rw [← h.reader]
  cases hplace : s.reader.place with
  | none => rfl
  | some p =>
    obtain rfl := hs p hplace
    exact congrArg (Option.bind · fun t => some (p, t)) h.tree

theorem scene_eq (h : SameFrom home s s') (p : Place) (t : Tree) : s.scene p t = s'.scene p t := by
  rw [scene, scene, h.globals, h.reader]

theorem setting_eq (h : SameFrom home s s') (t : Tree) : s.setting t = s'.setting t := by
  rw [setting, setting, h.globals]

theorem withScene (h : SameFrom home s s') (cursor : Nat) (after : Scene) :
    SameFrom home (s.withScene home cursor after) (s'.withScene home cursor after) := by
  have htree := congrArg (Option.map fun t : Tree => { t with
    locals := after.locals, defaultStart := after.defaultStart, speaker := after.speaker }) h.tree
  refine ⟨rfl, ?_, rfl⟩
  rw [← Library.tree?_modifyTree_self, ← Library.tree?_modifyTree_self] at htree
  exact htree

theorem settle (h : SameFrom p.tree s s') (t : Tree) (first : Nat) :
    Agree (SameFrom p.tree) (s.settle p t first) (s'.settle p t first) := by
  unfold Session.settle
  rw [h.scene_eq]
  obtain ⟨_ | r, after⟩ := t.document.settle p.cursor (s'.scene p t) first
  · exact ⟨rfl, h.withScene p.cursor after⟩
  · exact ⟨rfl, h.withScene r.cursor after⟩

theorem unload (h : SameFrom home s s') (hs : s.reader.IsAt home) :
    SameFrom home s.unload s'.unload := by
  unfold Session.unload
  rw [← h.reader]
  refine ⟨rfl, ?_, ?_⟩
  · dsimp only
    split
    next tree cursor speaker hplace =>
      obtain rfl : tree = home := hs _ hplace
      rw [Library.tree?_modifyTree_self, Library.tree?_modifyTree_self, h.tree]
    next => exact h.tree
  · dsimp only
    split <;> exact h.globals

theorem load (h : SameFrom home s s') (hs : s.reader.IsAt home) (start : Option Int32) :
    Agree (SameFrom home) (s.load home start) (s'.load home start) := by
  have hidle := h.unload hs
  unfold Session.load
  dsimp only
  rw [hidle.tree]
  rcases s'.unload.library.tree? home with _ | t
  · exact ⟨rfl, hidle⟩
  · dsimp only
    rcases t.document.entry (start.getD t.defaultStart) with e | ⟨startNode, first⟩
    · exact ⟨rfl, hidle⟩
    · have hentering : SameFrom home (s.entering home startNode) (s'.entering home startNode) :=
        ⟨rfl, hidle.tree, hidle.globals⟩
      have hwalk := settle (p := { tree := home, cursor := startNode }) hentering t first
      have hhome := isAt_settle (s.entering home startNode)
        { tree := home, cursor := startNode } t first
      unfold entering at hwalk hhome
      dsimp only
      generalize Session.settle _ _ t first = x at hwalk hhome ⊢
      generalize Session.settle _ _ t first = x' at hwalk ⊢
      obtain ⟨result, after⟩ := x
      obtain ⟨result', after'⟩ := x'
      obtain ⟨rfl : result = result', hafter⟩ := hwalk
      cases result with
      | error e => exact ⟨rfl, hafter.unload hhome⟩
      | ok resting => exact ⟨rfl, hafter⟩

theorem follow (h : SameFrom home s s') (hs : s.reader.IsAt home)
    (exit : Document → Nat → Except ReaderError Nat) :
    Agree (SameFrom home) (s.follow exit) (s'.follow exit) := by
  unfold Session.follow
  rw [← h.loaded?_eq hs]
  rcases hl : s.loaded? with _ | ⟨p, t⟩
  · exact ⟨rfl, h⟩
  · obtain rfl : p.tree = home := hs p (loaded?_eq_some.mp hl).1
    dsimp only
    cases exit t.document p.cursor with
    | error e => exact ⟨rfl, h⟩
    | ok first => exact h.settle t first

theorem jump (h : SameFrom home s s') (hs : s.reader.IsAt home) (i : Nat) :
    Agree (SameFrom home) (s.jump i) (s'.jump i) := by
  unfold Session.jump
  rw [← h.loaded?_eq hs]
  rcases s.loaded? with _ | ⟨p, t⟩
  · exact ⟨rfl, h⟩
  · dsimp only
    cases t.document.resting i with
    | error e => exact ⟨rfl, h⟩
    | ok type => exact ⟨rfl, by rw [h.reader], h.tree, h.globals⟩

theorem tree?_eq (h : SameFrom home s s') (hs : s.reader.IsAt home) :
    Session.tree? s = Session.tree? s' := by
  rw [Session.tree?, Session.tree?, h.loaded?_eq hs]

theorem modifyTree (h : SameFrom home s s') (hs : s.reader.IsAt home) (f : Tree → Tree) :
    SameFrom home (s.modifyTree f) (s'.modifyTree f) := by
  unfold Session.modifyTree
  rw [← h.loaded?_eq hs]
  rcases hl : s.loaded? with _ | ⟨p, t⟩
  · exact h
  · obtain rfl : p.tree = home := hs p (loaded?_eq_some.mp hl).1
    refine ⟨h.reader, ?_, h.globals⟩
    dsimp only
    rw [Library.tree?_modifyTree_self, Library.tree?_modifyTree_self, h.tree]

theorem changeSpeaker (h : SameFrom home s s') (hs : s.reader.IsAt home) (speaker : Speaker) :
    Agree (SameFrom home) (s.changeSpeaker speaker) (s'.changeSpeaker speaker) := by
  unfold Session.changeSpeaker
  rw [← h.loaded?_eq hs]
  rcases s.loaded? with _ | _
  · exact ⟨rfl, h⟩
  · exact ⟨rfl, h.modifyTree hs _⟩

theorem tryLocals (h : SameFrom home s s') (hs : s.reader.IsAt home) (f : Store → Option Store) :
    Agree (SameFrom home) (s.tryLocals f) (s'.tryLocals f) := by
  unfold Session.tryLocals
  rw [← h.tree?_eq hs]
  rcases (Session.tree? s).bind fun t => f t.locals with _ | store
  · exact ⟨rfl, h⟩
  · exact ⟨rfl, h.modifyTree hs _⟩

/-- What a reader at home in a tree is told on a call, and what comes of it, depends on the reader,
its tree and the shared variables. -/
theorem call (h : SameFrom home s s') (hs : s.reader.IsAt home) (c : Call) :
    Agree (SameFrom home) (c.run s) (c.run s') := by
  have hloaded := h.loaded?_eq hs
  have htree := h.tree?_eq hs
  cases c with
  | advance => exact (h.follow hs Document.onward).map Reply.reached
  | choose choice => exact (h.follow hs (·.answered · choice)).map Reply.reached
  | jump i => exact (h.jump hs i).map Reply.reached
  | output =>
    refine ⟨congrArg Reply.shown ?_, h⟩
    simp only [Session.output, hloaded, h.setting_eq]
  | expand text =>
    refine ⟨congrArg Reply.expanded ?_, h⟩
    simp only [Session.expand, htree, h.setting_eq]
  | speakerName =>
    refine ⟨congrArg Reply.name ?_, h⟩
    simp only [Session.speakerName?, htree, h.setting_eq]
  | takeSpeakerChanged =>
    exact ⟨congrArg (fun r : Reader => Reply.flag r.speakerChanged) h.reader,
      congrArg (fun r : Reader => { r with speakerChanged := false }) h.reader, h.tree, h.globals⟩
  | changeSpeaker speaker => exact (h.changeSpeaker hs speaker).map Reply.done
  | getVariable name type =>
    refine ⟨congrArg Reply.value ?_, h⟩
    rw [Session.locals, Session.locals, htree]
  | setVariable name v => exact (h.tryLocals hs _).map Reply.flag
  | addVariable v => exact (h.tryLocals hs _).map Reply.flag
  | removeVariable name => exact (h.tryLocals hs _).map Reply.flag
  | snapshot =>
    refine ⟨congrArg Reply.saved ?_, h⟩
    simp only [Session.snapshot, hloaded, h.reader, h.globals]

/-- The same of any action in its own tree. -/
theorem run (h : SameFrom home s s') (hs : s.reader.IsAt home) {a : Action}
    (ha : a.StaysAt home) :
    Agree (SameFrom home) (a.run s) (a.run s') := by
  cases a with
  | load tree start =>
    obtain rfl : tree = home := ha
    exact (h.load hs start).map Reply.loaded
  | unload => exact ⟨rfl, h.unload hs⟩
  | resume => cases ha
  | call c => exact h.call hs c

end SameFrom

end Session

end DialogueTree
