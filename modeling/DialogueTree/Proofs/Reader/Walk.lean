import DialogueTree.Proofs.Document.Edges
import DialogueTree.Proofs.Outcome
import DialogueTree.Reader.Walk

/-!
# Walks visit by visit

A walk is a chain of visits. Each of them passes on to the next one, and what the last one leads to
is what comes of the walk. Invariants of walks are shown for one visit and carried along the chain.

Results:
* `visit_eq_pass`, `visit_eq_rest`, `visit_eq_error`: all that one visit can do.
* `visits_induction`: what passes on from visit to visit holds at all of them.
* `walk_eq_ok`, `walk_eq_error`: the outcome of a walk is that of its last visit, unless there are
  too many.
-/

namespace DialogueTree

/-! ## Nodes and exits -/

namespace Document

@[simp] theorem nodeAt_eq_ok {d : Document} {i : Nat} {n : Node} :
    d.nodeAt i = .ok n ↔ d.node? i = some n := by
  unfold nodeAt
  split <;> simp_all

theorem nodeAt_eq_error {d : Document} {i : Nat} {e : ReaderError} :
    d.nodeAt i = .error e ↔ d.node? i = none ∧ e = .missingNode i d.name d.nodes.length := by
  unfold nodeAt
  cases d.node? i <;> simp [eq_comm]

end Document

/-- An exit leads on, or nothing is wired to it. -/
theorem Node.exit_cases (n : Node) (slot : Nat) :
    (∃ next, n.outputAt? slot = some next ∧ n.exit slot = .ok next) ∨
    (n.outputAt? slot = none ∧ n.exit slot = .error (.nothingAtSlot n.type n.index slot)) := by
  unfold Node.exit
  cases n.outputAt? slot with
  | some next => exact .inl ⟨next, rfl, rfl⟩
  | none => exact .inr ⟨rfl, rfl⟩

/-- Whether a node computes something when it is visited. -/
def Content.computes : Content → Bool
  | .logic .. | .edit .. | .startChange _ => true
  | _ => false

/-! ## One visit -/

namespace Document

variable {d : Document} {s after : Scene} {i next : Nat}

/-- The scenes in which a node is left for another one, and how the other one is found. -/
inductive Passes (d : Document) (s : Scene) (n : Node) : Scene → Nat → Prop
  | compute {after : Scene} {passed : Bool} {next : Nat} :
      n.content.computes = true → s.solve d n = .ok (after, passed) →
      n.outputAt? (if passed then 0 else 1) = some next → Passes d s n after next
  | newSpeaker {speaker : Speaker} {next : Nat} :
      n.content = .newSpeaker speaker → n.outputAt? 0 = some next →
      Passes d s n (s.announce speaker) next
  | teleportIn {id : Int32} {out next : Nat} {m : Node} :
      n.content = .teleport true id → d.teleportOut? id = some out → d.node? out = some m →
      m.outputAt? 0 = some next → Passes d s n s next
  | teleportOut {id : Int32} {next : Nat} :
      n.content = .teleport false id → n.outputAt? 0 = some next → Passes d s n s next

/-- The scenes in which a node is rested on. -/
inductive Rests (s : Scene) (n : Node) : Scene → Prop
  | plain : n.type = .finish ∨ n.type = .branch → Rests s n s
  | dialogue {text : String} {speaker : Option Speaker} :
      n.content = .dialogue text speaker → Rests s n (s.override speaker)

/-- The scenes in which a visit of the node at a position fails, and why. -/
inductive Fails (d : Document) (s : Scene) (i : Nat) (n : Node) : Scene → ReaderError → Prop
  | solve {e : ReaderError} : n.content.computes = true → s.solve d n = .error e → Fails d s i n s e
  | computeExit {after : Scene} {passed : Bool} :
      n.content.computes = true → s.solve d n = .ok (after, passed) →
      n.outputAt? (if passed then 0 else 1) = none →
      Fails d s i n after (.nothingAtSlot n.type n.index (if passed then 0 else 1))
  | newSpeakerExit {speaker : Speaker} :
      n.content = .newSpeaker speaker → n.outputAt? 0 = none →
      Fails d s i n (s.announce speaker) (.nothingAtSlot n.type n.index 0)
  | noTarget {id : Int32} :
      n.content = .teleport true id → d.teleportOut? id = none →
      Fails d s i n s (.teleportTargetMissing id i)
  | targetExit {id : Int32} {out : Nat} {m : Node} :
      n.content = .teleport true id → d.teleportOut? id = some out → d.node? out = some m →
      m.outputAt? 0 = none → Fails d s i n s (.nothingAtSlot m.type m.index 0)
  | outExit {id : Int32} :
      n.content = .teleport false id → n.outputAt? 0 = none →
      Fails d s i n s (.nothingAtSlot n.type n.index 0)
  | unexpected : n.type = .info ∨ n.type = .start ∨ n.type = .variable ∨ n.type = .comment →
      Fails d s i n s (.unexpectedNode n.type i)

theorem enter_of_solve_eq_ok {n : Node} {passed : Bool} (hcomp : n.content.computes = true)
    (h : s.solve d n = .ok (after, passed)) :
    d.enter s i n = (.pass <$> n.exit (if passed then 0 else 1), after) := by
  unfold enter
  cases hc : n.content <;> simp_all [Content.computes]

theorem enter_of_solve_eq_error {n : Node} {e : ReaderError} (hcomp : n.content.computes = true)
    (h : s.solve d n = .error e) : d.enter s i n = (.error e, s) := by
  unfold enter
  cases hc : n.content <;> simp_all [Content.computes]

/-- What comes of entering a node: one of the three. -/
theorem enter_spec (d : Document) (s : Scene) (i : Nat) (n : Node) :
    (∃ next after, d.enter s i n = (.ok (.pass next), after) ∧ d.Passes s n after next) ∨
    (∃ after, d.enter s i n = (.ok (.rest (d.restAt n i)), after) ∧ Rests s n after) ∨
    (∃ e after, d.enter s i n = (.error e, after) ∧ d.Fails s i n after e) := by
  by_cases hcomp : n.content.computes = true
  · cases hsolve : s.solve d n with
    | error e =>
      exact .inr (.inr ⟨e, s, enter_of_solve_eq_error hcomp hsolve, .solve hcomp hsolve⟩)
    | ok result =>
      obtain ⟨after, passed⟩ := result
      rw [enter_of_solve_eq_ok hcomp hsolve]
      rcases n.exit_cases (if passed then 0 else 1) with ⟨next, hout, hexit⟩ | ⟨hout, hexit⟩
      · exact .inl ⟨next, after, by rw [hexit]; rfl, .compute hcomp hsolve hout⟩
      · exact .inr (.inr ⟨_, after, by rw [hexit]; rfl, .computeExit hcomp hsolve hout⟩)
  · cases hc : n.content with
    | logic | edit | startChange => simp [hc, Content.computes] at hcomp
    | finish =>
      have htype : n.type = .finish := by simp [Node.type, hc, Content.type]
      exact .inr (.inl ⟨s, by simp [enter, hc], .plain (.inl htype)⟩)
    | branch =>
      have htype : n.type = .branch := by simp [Node.type, hc, Content.type]
      exact .inr (.inl ⟨s, by simp [enter, hc], .plain (.inr htype)⟩)
    | dialogue text speaker => exact .inr (.inl ⟨_, by simp [enter, hc], .dialogue hc⟩)
    | newSpeaker speaker =>
      rcases n.exit_cases 0 with ⟨next, hout, hexit⟩ | ⟨hout, hexit⟩
      · exact .inl ⟨next, s.announce speaker, by simp [enter, hc, hexit], .newSpeaker hc hout⟩
      · exact .inr (.inr ⟨_, s.announce speaker, by simp [enter, hc, hexit],
          .newSpeakerExit hc hout⟩)
    | teleport isIn id =>
      cases isIn with
      | false =>
        rcases n.exit_cases 0 with ⟨next, hout, hexit⟩ | ⟨hout, hexit⟩
        · exact .inl ⟨next, s, by simp [enter, hc, hexit], .teleportOut hc hout⟩
        · exact .inr (.inr ⟨_, s, by simp [enter, hc, hexit], .outExit hc hout⟩)
      | true =>
        cases htarget : d.teleportOut? id with
        | none =>
          exact .inr (.inr ⟨_, s, by simp [enter, hc, teleportExit, htarget], .noTarget hc htarget⟩)
        | some out =>
          obtain ⟨m, hm, -⟩ := node?_of_teleportOut? htarget
          have hat := nodeAt_eq_ok.mpr hm
          rcases m.exit_cases 0 with ⟨next, hout, hexit⟩ | ⟨hout, hexit⟩
          · exact .inl ⟨next, s, by simp [enter, hc, teleportExit, htarget, hat, hexit],
              .teleportIn hc htarget hm hout⟩
          · exact .inr (.inr ⟨_, s, by simp [enter, hc, teleportExit, htarget, hat, hexit],
              .targetExit hc htarget hm hout⟩)
    | info | start | «variable» | comment =>
      exact .inr (.inr ⟨_, s, by simp [enter, hc],
        .unexpected (by simp [Node.type, hc, Content.type])⟩)

theorem visit_of_node? {n : Node} (hn : d.node? i = some n) :
    d.visit s i = d.enter s.revert i n := by
  unfold visit
  rw [nodeAt_eq_ok.mpr hn]

theorem visit_of_missing (hn : d.node? i = none) :
    d.visit s i = (.error (.missingNode i d.name d.nodes.length), s.revert) := by
  unfold visit
  rw [nodeAt_eq_error.mpr ⟨hn, rfl⟩]

/-- A visit that passes on. -/
theorem visit_eq_pass (h : d.visit s i = (.ok (.pass next), after)) :
    ∃ n, d.node? i = some n ∧ d.Passes s.revert n after next := by
  cases hn : d.node? i with
  | none => simp [visit_of_missing hn] at h
  | some n =>
    rw [visit_of_node? hn] at h
    rcases d.enter_spec s.revert i n with ⟨_, _, he, hp⟩ | ⟨_, he, -⟩ | ⟨_, _, he, -⟩
    · rw [he] at h
      cases h
      exact ⟨n, rfl, hp⟩
    · rw [he] at h
      cases h
    · rw [he] at h
      cases h

/-- A visit that comes to rest. -/
theorem visit_eq_rest {r : Rest} (h : d.visit s i = (.ok (.rest r), after)) :
    ∃ n, d.node? i = some n ∧ r = d.restAt n i ∧ Rests s.revert n after := by
  cases hn : d.node? i with
  | none => simp [visit_of_missing hn] at h
  | some n =>
    rw [visit_of_node? hn] at h
    rcases d.enter_spec s.revert i n with ⟨_, _, he, -⟩ | ⟨_, he, hr⟩ | ⟨_, _, he, -⟩
    · rw [he] at h
      cases h
    · rw [he] at h
      cases h
      exact ⟨n, rfl, rfl, hr⟩
    · rw [he] at h
      cases h

/-- A visit that fails. -/
theorem visit_eq_error {e : ReaderError} (h : d.visit s i = (.error e, after)) :
    (d.node? i = none ∧ e = .missingNode i d.name d.nodes.length ∧ after = s.revert) ∨
    ∃ n, d.node? i = some n ∧ d.Fails s.revert i n after e := by
  cases hn : d.node? i with
  | none =>
    rw [visit_of_missing hn] at h
    cases h
    exact .inl ⟨rfl, rfl, rfl⟩
  | some n =>
    rw [visit_of_node? hn] at h
    rcases d.enter_spec s.revert i n with ⟨_, _, he, -⟩ | ⟨_, he, -⟩ | ⟨_, _, he, hf⟩
    · rw [he] at h
      cases h
    · rw [he] at h
      cases h
    · rw [he] at h
      cases h
      exact .inr ⟨n, rfl, hf⟩

/-- Every node that a visit passes on to stands behind an edge. -/
theorem exists_leads_of_visit (h : d.visit s i = (.ok (.pass next), after)) :
    ∃ source, d.Leads source next := by
  obtain ⟨n, hn, hp⟩ := visit_eq_pass h
  cases hp with
  | compute _ _ hout => exact ⟨i, leads_of_outputAt? hn hout⟩
  | newSpeaker _ hout => exact ⟨i, leads_of_outputAt? hn hout⟩
  | teleportIn _ _ hm hout => exact ⟨_, leads_of_outputAt? hm hout⟩
  | teleportOut _ hout => exact ⟨i, leads_of_outputAt? hn hout⟩

/-! ## Places of rest -/

/-- Whether a reader may rest at a position. -/
def IsStop (d : Document) (i : Nat) : Prop := ∃ type, d.nodeType? i = some type ∧ type.isStop = true

/-- Whether a line or an end stands at a position and its first exit leads to a question. -/
def LeadsIn (d : Document) (i : Nat) : Prop :=
  ∃ n, d.node? i = some n ∧ (n.type = .dialogue ∨ n.type = .finish) ∧
    ∃ link, n.outputs.head? = some link ∧ d.isBranch link.node = true

theorem Rests.isStop {n : Node} (h : Rests s n after) : n.type.isStop = true := by
  cases h with
  | plain h => rcases h with h | h <;> rw [h] <;> rfl
  | dialogue h => simp [Node.type, Content.type, NodeType.isStop, h]

theorem isBranch_eq_true {n : Node} (hn : d.node? i = some n) (h : d.isBranch i = true) :
    n.type = .branch := by
  simpa [isBranch, nodeType?, hn] using h

theorem leadsIn_of_head? {n : Node} {link : Link} (hn : d.node? i = some n)
    (hstop : n.type.isStop = true) (hb : n.type ≠ .branch) (hout : n.outputs.head? = some link)
    (hto : d.isBranch link.node = true) : d.LeadsIn i := by
  refine ⟨n, hn, ?_, link, hout, hto⟩
  cases htype : n.type with
  | dialogue => exact .inl rfl
  | finish => exact .inr rfl
  | branch => exact absurd htype hb
  | _ => simp [htype, NodeType.isStop] at hstop

/-- A reader rests on the node that it reaches, or on the question that the node leads to. -/
theorem restAt_cases {n : Node} (hn : d.node? i = some n) :
    (¬d.LeadsIn i ∧ d.restAt n i = ⟨i, n.type⟩) ∨
    ∃ link, n.type ≠ .branch ∧ n.outputs.head? = some link ∧ d.isBranch link.node = true ∧
      d.restAt n i = ⟨link.node, .branch⟩ := by
  have hline : d.LeadsIn i → n.type ≠ .branch ∧
      ∃ link, n.outputs.head? = some link ∧ d.isBranch link.node = true := by
    rintro ⟨m, hm, htype, hlink⟩
    obtain rfl : n = m := Option.some.inj (hn.symm.trans hm)
    exact ⟨by rcases htype with h | h <;> simp [h], hlink⟩
  by_cases hb : n.type = .branch
  · exact .inl ⟨fun h => (hline h).1 hb, by simp [restAt, Node.isBranch, hb]⟩
  have hhere : n.isBranch = false := by simpa [Node.isBranch] using hb
  cases hout : n.outputs with
  | nil =>
    refine .inl ⟨fun h => ?_, by simp [restAt, hout]⟩
    obtain ⟨-, link, hlink, -⟩ := hline h
    simp [hout] at hlink
  | cons link rest =>
    by_cases hto : d.isBranch link.node = true
    · exact .inr ⟨link, hb, rfl, hto, by simp [restAt, hhere, hout, hto]⟩
    · refine .inl ⟨fun h => ?_, by simp [restAt, hhere, hout, hto]⟩
      obtain ⟨-, other, hother, hbranch⟩ := hline h
      obtain rfl : link = other := by simpa [hout] using hother
      exact hto hbranch

/-- Where a line leads into a question the reader rests on the question. -/
theorem restAt_spec {n : Node} (hn : d.node? i = some n) (hstop : n.type.isStop = true) :
    d.nodeType? (d.restAt n i).cursor = some (d.restAt n i).type ∧
      (d.restAt n i).type.isStop = true ∧ ¬d.LeadsIn (d.restAt n i).cursor := by
  rcases restAt_cases hn with ⟨hlead, hrest⟩ | ⟨link, -, -, hto, hrest⟩
  · rw [hrest]
    exact ⟨nodeType?_eq_some.mpr ⟨n, hn, rfl⟩, hstop, hlead⟩
  · rw [hrest]
    refine ⟨isBranch_iff.mp hto, rfl, ?_⟩
    rintro ⟨m, hm, hline, -⟩
    simp [isBranch_eq_true hm hto] at hline

/-! ## Chains of visits -/

/-- A node that a walk visits, with the scene in which it is reached. -/
structure Visit where
  scene : Scene
  position : Nat

/-- The visits of a walk of at most `hops`. -/
def visits (d : Document) : Nat → Scene → Nat → List Visit
  | 0, _, _ => []
  | hops + 1, s, i =>
    ⟨s, i⟩ :: match d.visit s i with
      | (.ok (.pass next), after) => d.visits hops after next
      | _ => []

theorem visits_of_pass (hops : Nat) (h : d.visit s i = (.ok (.pass next), after)) :
    d.visits (hops + 1) s i = ⟨s, i⟩ :: d.visits hops after next := by
  rw [visits, h]

/-- What holds at the first visit and is passed on holds at all visits. -/
theorem visits_induction {P : Scene → Nat → Prop}
    (hpass : ∀ s i next after, P s i → d.visit s i = (.ok (.pass next), after) → P after next) :
    ∀ hops s i, P s i → ∀ v ∈ d.visits hops s i, P v.scene v.position := by
  intro hops
  induction hops with
  | zero =>
    intro s i _ v hv
    simp [visits] at hv
  | succ hops ih =>
    intro s i hs v hv
    rw [visits] at hv
    rcases List.mem_cons.mp hv with rfl | hv
    · exact hs
    · split at hv
      next next after hvisit => exact ih after next (hpass s i next after hs hvisit) v hv
      next => simp at hv

/-- There is an edge to every node that a walk visits. -/
theorem leads_of_visits {hops first : Nat} {v : Visit} (hfirst : ∃ source, d.Leads source first)
    (hv : v ∈ d.visits hops s first) : ∃ source, d.Leads source v.position :=
  visits_induction (P := fun _ i => ∃ source, d.Leads source i)
    (fun _ _ _ _ _ hvisit => exists_leads_of_visit hvisit) hops s first hfirst v hv

/-- What a walk ends in, its last visit leads to. -/
theorem walk_eq_ok {cursor hops : Nat} {r : Rest} (h : d.walk cursor hops s i = (.ok r, after)) :
    ∃ v, (d.visits hops s i).getLast? = some v ∧
      d.visit v.scene v.position = (.ok (.rest r), after) := by
  induction hops generalizing s i with
  | zero => cases h
  | succ hops ih =>
    rw [walk] at h
    split at h
    next next mid hvisit =>
      obtain ⟨v, hlast, hv⟩ := ih h
      refine ⟨v, ?_, hv⟩
      rw [visits_of_pass hops hvisit, List.getLast?_cons, hlast]
      rfl
    next r' mid hvisit =>
      cases h
      exact ⟨⟨s, i⟩, by simp [visits, hvisit], hvisit⟩
    next => cases h

/-- A walk fails where its last visit does, unless it has made too many. -/
theorem walk_eq_error {cursor hops : Nat} {e : ReaderError}
    (h : d.walk cursor hops s i = (.error e, after)) :
    (∃ v, (d.visits hops s i).getLast? = some v ∧
      d.visit v.scene v.position = (.error e, after)) ∨
    e = .infiniteLoop hopLimit d.name cursor := by
  induction hops generalizing s i with
  | zero =>
    cases h
    exact .inr rfl
  | succ hops ih =>
    rw [walk] at h
    split at h
    next next mid hvisit =>
      rcases ih h with ⟨v, hlast, hv⟩ | hloop
      · refine .inl ⟨v, ?_, hv⟩
        rw [visits_of_pass hops hvisit, List.getLast?_cons, hlast]
        rfl
      · exact .inr hloop
    next => cases h
    next e' mid hvisit =>
      cases h
      exact .inl ⟨⟨s, i⟩, by simp [visits, hvisit], hvisit⟩

/-! ## Settling -/

theorem settle_eq_ok {cursor : Nat} {r : Rest} :
    d.settle cursor s i = (.ok r, after) ↔ d.walk cursor hopLimit s i = (.ok r, after) := by
  unfold settle
  split
  next h => rw [h]
  next h => simp [h]

theorem settle_eq_error {cursor : Nat} {e : ReaderError} :
    (d.settle cursor s i).1 = .error e ↔ (d.walk cursor hopLimit s i).1 = .error e := by
  unfold settle
  split
  next h => rw [h]
  next h => rw [h]

end Document

end DialogueTree
