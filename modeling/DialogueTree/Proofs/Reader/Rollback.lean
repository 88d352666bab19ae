import DialogueTree.Proofs.Reader.Evaluation
import DialogueTree.Proofs.Reader.Pass

/-!
# Walks that fail

A walk may let a speaker return, announce others, write to variables and change the way in before it
fails, up to `hopLimit` visits later. What it has done to the speakers is taken back, wherever it
fails. What it has written stays: the memory after a walk is the one before it with the writes of
the visited nodes replayed in order.

Results:
* `Document.memory_walk`: a walk makes the writes of its visits, whatever comes of it.
* `Document.settle_of_error`: all that is left of a walk that fails.
* `Session.rollback`: all that is left of a call that fails.
-/

namespace DialogueTree

/-! ## Replaying the writes -/

namespace Scene

variable {s : Scene} {d : Document} {n : Node}

/-- Only nodes that compute have something to write. -/
theorem write?_of_computes_eq_false (h : n.content.computes = false) : s.write? d n = none := by
  cases hc : n.content <;> simp_all [write?, Content.computes]

theorem memory_solve {passed : Bool} {after : Scene} (h : s.solve d n = .ok (after, passed)) :
    after.memory = s.memory.after (s.write? d n).toList := by
  have hspec := s.solve_spec d n
  rw [h] at hspec
  rw [hspec, memory_withMemory]

theorem write?_of_solve_eq_error {e : ReaderError} (h : s.solve d n = .error e) :
    s.write? d n = none := by
  have hspec := s.solve_spec d n
  rwa [h] at hspec

end Scene

namespace Document

variable {d : Document} {s after : Scene} {i : Nat} {n : Node}

/-- What is written at a visit. -/
def writeAt? (d : Document) (v : Visit) : Option Write :=
  (d.node? v.position).bind (v.scene.write? d)

/-- What is written at some visits, in their order. -/
def writes (d : Document) (vs : List Visit) : List Write := vs.filterMap d.writeAt?

theorem writes_cons (d : Document) (v : Visit) (vs : List Visit) :
    d.writes (v :: vs) = (d.writeAt? v).toList ++ d.writes vs := by
  unfold writes
  cases hw : d.writeAt? v <;> simp [hw]

/-- Whatever is written at some visits, is written at one of them, by a change of a variable or of
the way in. -/
theorem exists_visit_of_mem_writes {vs : List Visit} {w : Write} (h : w ∈ d.writes vs) :
    ∃ v ∈ vs, ∃ n, d.node? v.position = some n ∧ (n.type = .edit ∨ n.type = .startChange) ∧
      v.scene.write? d n = some w := by
  obtain ⟨v, hv, hw⟩ := List.mem_filterMap.mp h
  obtain ⟨n, hn, hw⟩ := Option.bind_eq_some_iff.mp hw
  refine ⟨v, hv, n, hn, ?_, hw⟩
  unfold Scene.write? at hw
  split at hw
  next hc => exact .inl (by simp [Node.type, hc, Content.type])
  next hc => exact .inr (by simp [Node.type, hc, Content.type])
  next => cases hw

theorem memory_enter (d : Document) (s : Scene) (i : Nat) (n : Node) :
    (d.enter s i n).2.memory = s.memory.after (s.write? d n).toList := by
  have hquiet : n.content.computes = false → s.memory = s.memory.after (s.write? d n).toList := by
    intro h
    rw [Scene.write?_of_computes_eq_false h]
    rfl
  rcases d.enter_spec s i n with ⟨next, after, he, h⟩ | ⟨after, he, h⟩ | ⟨e, after, he, h⟩
  · rw [he]
    cases h with
    | compute _ hsolve => exact Scene.memory_solve hsolve
    | newSpeaker hc | teleportIn hc | teleportOut hc => exact hquiet (by rw [hc]; rfl)
  · rw [he]
    cases h with
    | plain htype =>
      refine hquiet ?_
      cases hc : n.content <;> simp_all [Node.type, Content.type, Content.computes]
    | dialogue hc =>
      rw [Scene.memory_override]
      exact hquiet (by rw [hc]; rfl)
  · rw [he]
    cases h with
    | solve _ hsolve =>
      rw [Scene.write?_of_solve_eq_error hsolve]
      rfl
    | computeExit _ hsolve => exact Scene.memory_solve hsolve
    | newSpeakerExit hc | noTarget hc | targetExit hc | outExit hc =>
      exact hquiet (by rw [hc]; rfl)
    | unexpected htype =>
      refine hquiet ?_
      cases hc : n.content <;> simp_all [Node.type, Content.type, Content.computes]

/-- A visit makes the write of its node. The speaker who returns first has no part in it. -/
theorem memory_visit (d : Document) (s : Scene) (i : Nat) :
    (d.visit s i).2.memory = s.memory.after (d.writeAt? ⟨s, i⟩).toList := by
  unfold writeAt?
  cases hn : d.node? i with
  | none =>
    rw [visit_of_missing hn]
    exact s.memory_revert
  | some n =>
    rw [visit_of_node? hn, memory_enter, s.memory_revert,
      Scene.write?_eq_of_memory s.memory_revert]
    rfl

/-- A walk makes the writes of its visits, whatever comes of it. -/
theorem memory_walk (d : Document) (cursor hops : Nat) (s : Scene) (i : Nat) :
    (d.walk cursor hops s i).2.memory = s.memory.after (d.writes (d.visits hops s i)) := by
  induction hops generalizing s i with
  | zero => rfl
  | succ hops ih =>
    have hvisit := d.memory_visit s i
    rw [walk, visits, writes_cons]
    split
    next next mid h =>
      rw [h] at hvisit
      rw [h, ih, hvisit, Memory.after_append]
    next r mid h =>
      rw [h] at hvisit
      rw [h, hvisit]
      simp [writes]
    next e mid h =>
      rw [h] at hvisit
      rw [h, hvisit]
      simp [writes]

/-- All that is left of a walk that fails, is what it has written. -/
theorem settle_of_error {cursor : Nat} {e : ReaderError}
    (h : d.settle cursor s i = (.error e, after)) :
    after = s.withMemory (s.memory.after (d.writes (d.visits hopLimit s i))) := by
  have hwalk := d.memory_walk cursor hopLimit s i
  unfold settle at h
  split at h
  next => cases h
  next e' reached hreached =>
    cases h
    rw [hreached] at hwalk
    rw [← hwalk]
    rfl

end Document

/-! ## Calls that fail -/

/-- What is written on the walk of an action, if it makes one. -/
def Session.writes (s : Session) (a : Action) : List Write :=
  (s.pass? a).elim [] fun w => w.document.writes w.visits

namespace Session

variable {s : Session} {p : Place} {t : Tree}

/-- What is left of a failed walk in the session: the reader has not moved, its tree and the shared
variables hold what has been written, and the other trees are as they were. -/
theorem settle_of_error (hl : s.loaded? = some (p, t)) {first : Nat} {e : ReaderError}
    (h : (s.settle p t first).1 = .error e) :
    let writes := t.document.writes (t.document.visits hopLimit (s.scene p t) first)
    (s.settle p t first).2.reader = s.reader ∧
    (∃ u, (s.settle p t first).2.loaded? = some (p, u) ∧ u.document = t.document ∧
      (s.settle p t first).2.scene p u =
        (s.scene p t).withMemory ((s.scene p t).memory.after writes)) ∧
    ∀ i ≠ p.tree, (s.settle p t first).2.library.tree? i = s.library.tree? i := by
  obtain ⟨hplace, htree⟩ := loaded?_eq_some.mp hl
  intro writes
  unfold settle at *
  split at h
  next => cases h
  next e' after hsettle =>
    have hafter := Document.settle_of_error hsettle
    have hpending : after.pending = p.pending := by rw [hafter]; rfl
    have hchanged : after.changed = s.reader.speakerChanged := by rw [hafter]; rfl
    have hreader : (s.withScene p.tree p.cursor after).reader = s.reader := by
      unfold withScene
      rw [hpending, hchanged, ← hplace]
    refine ⟨hreader, ?_, fun i hi => s.tree?_withScene_of_ne (Ne.symm hi) _ _⟩
    obtain ⟨q, u, hq, hsame⟩ :=
      conversation?_eq_some.mp (conversation?_withScene htree p.cursor after)
    obtain rfl : q = p := Option.some.inj <|
      (loaded?_eq_some.mp hq).1.symm.trans ((congrArg Reader.place hreader).trans hplace)
    simp only [Conversation.mk.injEq, true_and] at hsame
    exact ⟨u, hq, hsame.1.symm, hsame.2.symm.trans hafter⟩

/-- A call to go on that fails takes the reader nowhere: it rests where it did, the same speaker
waits to return, and nobody has noticed a change of the speaker. The tree has the speaker that it
had, and the variables have their names and their order. What else there is in the memory of tree
and reader, differs by the writes of the nodes that were visited, and the other trees do not differ
at all. -/
theorem rollback (hl : s.loaded? = some (p, t)) {c : Call}
    (hc : c = .advance ∨ ∃ choice, c = .choose choice) {e : ReaderError}
    (he : (c.run s).1 = .reached (.error e)) :
    let after := (c.run s).2
    let writes := s.writes (.call c)
    after.reader = s.reader ∧
    (∃ u, after.loaded? = some (p, u) ∧ u.document = t.document ∧ u.speaker = t.speaker ∧
      (after.scene p u).memory.names = (s.scene p t).memory.names ∧
      (after.scene p u).memory = (s.scene p t).memory.after writes) ∧
    (∀ w ∈ writes, ∃ pass v n, s.pass? (.call c) = some pass ∧ v ∈ pass.visits ∧
      t.document.node? v.position = some n ∧ (n.type = .edit ∨ n.type = .startChange) ∧
      v.scene.write? t.document n = some w) ∧
    ∀ i ≠ p.tree, after.library.tree? i = s.library.tree? i := by
  obtain ⟨r, hfollows, herror, hrun⟩ : ∃ r, s.Follows (.call c) r ∧ r.1 = .error e ∧
      (c.run s).2 = r.2 := by
    rcases hc with rfl | ⟨choice, rfl⟩
    · exact ⟨_, s.follows_advance, Reply.reached.inj he, rfl⟩
    · exact ⟨_, s.follows_choose choice, Reply.reached.inj he, rfl⟩
  intro after writes
  have hafter : after = r.2 := hrun
  have hwrites : writes = s.writes (.call c) := rfl
  cases hfollows with
  | stays hpass =>
    -- There was no walk, so nothing has happened at all.
    have hnone : writes = [] := by rw [hwrites, Session.writes, hpass]; rfl
    rw [hafter, hnone]
    exact ⟨rfl, ⟨t, hl, rfl, rfl, rfl, rfl⟩, by simp, fun _ _ => rfl⟩
  | walks hl' hpass hw =>
    rename_i q u w
    obtain ⟨rfl, rfl⟩ : p = q ∧ t = u := by simpa [hl] using hl'
    have hmade : writes = t.document.writes (t.document.visits hopLimit (s.scene p t) w.first) := by
      rw [hwrites, Session.writes, hpass]
      simp only [Option.elim_some, Pass.visits, Pass.document, hw]
    obtain ⟨hreader, ⟨u, hu, hdoc, hscene⟩, hothers⟩ := settle_of_error hl herror
    rw [hafter]
    refine ⟨hreader, ⟨u, hu, hdoc, ?_, ?_, ?_⟩, ?_, hothers⟩
    · exact congrArg Scene.speaker hscene
    · rw [hscene, Scene.memory_withMemory, Memory.names_after]
    · rw [hscene, Scene.memory_withMemory, hmade]
    · intro x hx
      rw [hmade] at hx
      obtain ⟨v, hv, hvisit⟩ := Document.exists_visit_of_mem_writes hx
      refine ⟨w, v, ?_⟩
      obtain ⟨n, hn⟩ := hvisit
      refine ⟨n, hpass, ?_, hn⟩
      simpa only [Pass.visits, Pass.document, hw] using hv

end Session

/-! ## A walk that stumbles -/

/-- A tree in which the way on from a guest's line changes the speaker, the way in and a variable,
and then ends at a missing exit. -/
def Document.stumble : Document :=
  { name := "stumble"
    declared := [{ name := "steps" }]
    nodes :=
      [⟨0, .info { name := "Ann" }, [], []⟩,
        ⟨1, .start 0, [], [⟨2, 0⟩]⟩,
        ⟨2, .dialogue "Hello" (some { name := "Guest" }), [⟨1, 0⟩], [⟨3, 0⟩]⟩,
        ⟨3, .newSpeaker { name := "Host" }, [⟨2, 0⟩], [⟨4, 0⟩]⟩,
        ⟨4, .startChange 7, [⟨3, 0⟩], [⟨5, 0⟩]⟩,
        ⟨5, .edit .int .add { int := 1 }, [⟨4, 0⟩, ⟨6, 1⟩], []⟩,
        ⟨6, .variable 0 .int false, [], [⟨5, 1⟩]⟩] }

namespace Session

/-- A reader on the guest's line. -/
def stumbling : Session := (load ⟨⟨[.ofDocument .stumble], {}⟩, {}⟩ 0 none).2

/-- Going on from there fails. The guest is still the one who speaks, and Ann the one who returns;
the step has been counted, and the way in is another one. -/
theorem stumbling_rollback :
    stumbling.advance.1 = .error (.nothingAtSlot .edit 5 0) ∧
    stumbling.advance.2.reader = ⟨some ⟨0, 2, some { name := "Ann" }⟩, true⟩ ∧
    ∃ u, stumbling.advance.2.loaded? = some (⟨0, 2, some { name := "Ann" }⟩, u) ∧
      u.speaker = { name := "Guest" } ∧ u.defaultStart = 7 ∧
      u.locals.get? "steps" .int = some (.int 1) := by
  have hl : stumbling.loaded? = some (⟨0, 2, some { name := "Ann" }⟩,
      { Tree.ofDocument .stumble with speaker := { name := "Guest" } }) := rfl
  have herror : stumbling.advance.1 = .error (.nothingAtSlot .edit 5 0) := rfl
  have hwrites : stumbling.writes (.call .advance) = [.start 7, .slot false 0 (.int 1)] := rfl
  obtain ⟨hreader, ⟨u, hu, -, hspeaker, -, hmemory⟩, -⟩ :=
    rollback hl (.inl rfl) (congrArg Reply.reached herror)
  rw [hwrites] at hmemory
  have hlocals : u.locals = ⟨[{ name := "steps", slots := { int := 1 } }]⟩ :=
    congrArg Memory.locals hmemory
  refine ⟨herror, hreader, u, hu, hspeaker, congrArg Memory.defaultStart hmemory, ?_⟩
  rw [hlocals]
  decide +kernel

end Session

end DialogueTree
