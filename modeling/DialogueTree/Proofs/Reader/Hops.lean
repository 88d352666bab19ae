import DialogueTree.Proofs.Reader.Evaluation

/-!
# The bound of a walk

A walk makes at most `hopLimit` visits, but what it does has nothing to do with that bound: it is
the iteration of single hops, each of which lets the speaker of the last line return, does what the
node says and names the next one. The bound decides only how far the iteration is followed. A
conversation that would go on forever ends in an error, and no other one does for that reason.

Results:
* `Document.hop_iff`, `Document.stops_iff`, `Document.breaks_iff`: one visit is a hop, a stop or a
  break.
* `Document.walk_eq_ok_iff`, `Document.walk_eq_error_iff`: a walk with any bound.
* `Document.settle_iff_hops`: what comes of a walk with the bound of a reader.
-/

namespace DialogueTree.Document

variable {d : Document} {s mid after : Scene} {i j next : Nat} {n : Node} {r : Rest}
  {e : ReaderError}

/-! ## One visit -/

/-- A node is passed: the speaker of the last line has returned, the node has done what it says, and
the next node is known. -/
def Hop (d : Document) (s : Scene) (i : Nat) (after : Scene) (next : Nat) : Prop :=
  ∃ n, d.node? i = some n ∧ d.Passes s.revert n after next

/-- A node is rested on, or the question that it leads to is. -/
inductive Stops (d : Document) (s : Scene) (i : Nat) : Rest → Scene → Prop
  | here {n : Node} {after : Scene} : d.node? i = some n → Rests s.revert n after →
      ¬d.LeadsIn i → Stops d s i ⟨i, n.type⟩ after
  | question {n : Node} {after : Scene} {link : Link} : d.node? i = some n →
      Rests s.revert n after → n.type ≠ .branch → n.outputs.head? = some link →
      d.isBranch link.node = true → Stops d s i ⟨link.node, .branch⟩ after

/-- A node cannot be visited. -/
inductive Breaks (d : Document) (s : Scene) (i : Nat) : ReaderError → Prop
  | missing : d.node? i = none → Breaks d s i (.missingNode i d.name d.nodes.length)
  | fails {n : Node} {after : Scene} {e : ReaderError} : d.node? i = some n →
      d.Fails s.revert i n after e → Breaks d s i e

theorem Passes.enter_eq (h : d.Passes s n after next) (i : Nat) :
    d.enter s i n = (.ok (.pass next), after) := by
  cases h with
  | compute hcomp hsolve hout =>
    rw [enter_of_solve_eq_ok hcomp hsolve, Node.exit, hout]
    rfl
  | newSpeaker hc hout => simp [enter, hc, Node.exit, hout]
  | teleportIn hc htarget hm hout =>
    simp [enter, hc, teleportExit, htarget, nodeAt_eq_ok.mpr hm, Node.exit, hout]
  | teleportOut hc hout => simp [enter, hc, Node.exit, hout]

theorem Rests.enter_eq (h : Rests s n after) (d : Document) (i : Nat) :
    d.enter s i n = (.ok (.rest (d.restAt n i)), after) := by
  cases h with
  | plain htype =>
    cases hc : n.content <;> simp_all [Node.type, Content.type, enter]
  | dialogue hc => simp [enter, hc]

theorem Fails.enter_eq (h : d.Fails s i n after e) : d.enter s i n = (.error e, after) := by
  cases h with
  | solve hcomp hsolve => exact enter_of_solve_eq_error hcomp hsolve
  | computeExit hcomp hsolve hout =>
    rw [enter_of_solve_eq_ok hcomp hsolve, Node.exit, hout]
    rfl
  | newSpeakerExit hc hout => simp [enter, hc, Node.exit, hout]
  | noTarget hc htarget => simp [enter, hc, teleportExit, htarget]
  | targetExit hc htarget hm hout =>
    simp [enter, hc, teleportExit, htarget, nodeAt_eq_ok.mpr hm, Node.exit, hout]
  | outExit hc hout => simp [enter, hc, Node.exit, hout]
  | unexpected htype =>
    cases hc : n.content <;> simp_all [Node.type, Content.type, enter]

theorem hop_iff : d.Hop s i after next ↔ d.visit s i = (.ok (.pass next), after) := by
  constructor
  · rintro ⟨n, hn, hpass⟩
    rw [visit_of_node? hn]
    exact hpass.enter_eq i
  · exact visit_eq_pass

theorem stops_iff : d.Stops s i r after ↔ d.visit s i = (.ok (.rest r), after) := by
  constructor
  · intro h
    cases h with
    | here hn hrest hlead =>
      rw [visit_of_node? hn, hrest.enter_eq d i]
      rcases restAt_cases hn with ⟨-, hat⟩ | ⟨link, hb, hout, hto, -⟩
      · rw [hat]
      · exact absurd (leadsIn_of_head? hn hrest.isStop hb hout hto) hlead
    | question hn hrest hb hout hto =>
      rw [visit_of_node? hn, hrest.enter_eq d i]
      rcases restAt_cases hn with ⟨hlead, -⟩ | ⟨other, -, hother, -, hat⟩
      · exact absurd (leadsIn_of_head? hn hrest.isStop hb hout hto) hlead
      · rw [hat, Option.some.inj (hout.symm.trans hother)]
  · intro h
    obtain ⟨n, hn, rfl, hrest⟩ := visit_eq_rest h
    rcases restAt_cases hn with ⟨hlead, hat⟩ | ⟨link, hb, hout, hto, hat⟩
    · rw [hat]
      exact .here hn hrest hlead
    · rw [hat]
      exact .question hn hrest hb hout hto

theorem breaks_iff : d.Breaks s i e ↔ (d.visit s i).1 = .error e := by
  constructor
  · intro h
    cases h with
    | missing hn => rw [visit_of_missing hn]
    | fails hn hfails => rw [visit_of_node? hn, hfails.enter_eq]
  · intro h
    have hvisit : d.visit s i = (.error e, (d.visit s i).2) := Prod.ext h rfl
    rcases visit_eq_error hvisit with ⟨hn, rfl, -⟩ | ⟨n, hn, hfails⟩
    · exact .missing hn
    · exact .fails hn hfails

/-- A visit fails for a reason of its own. -/
theorem Breaks.code_ne (h : d.Breaks s i e) : e.report.code ≠ "READER_INFINITE_LOOP" := by
  cases h with
  | missing => simp [ReaderError.report]
  | fails _ hfails =>
    cases hfails with
    | solve _ hsolve =>
      cases Scene.unsolved_of_solve hsolve <;> simp [ReaderError.report, Reference.error]
    | _ => simp [ReaderError.report]

/-! ## Hops without a bound -/

/-- Some number of hops, one after another. -/
inductive Hops (d : Document) : Nat → Scene → Nat → Scene → Nat → Prop
  | refl (s : Scene) (i : Nat) : Hops d 0 s i s i
  | head {k : Nat} {s mid after : Scene} {i j next : Nat} : d.Hop s i mid j →
      Hops d k mid j after next → Hops d (k + 1) s i after next

/-- More than no hops are one hop and the others. -/
theorem hops_succ_iff {k : Nat} :
    d.Hops (k + 1) s i after next ↔ ∃ mid j, d.Hop s i mid j ∧ d.Hops k mid j after next := by
  constructor
  · intro h
    cases h with
    | head hhop hrest => exact ⟨_, _, hhop, hrest⟩
  · rintro ⟨mid, j, hhop, hrest⟩
    exact .head hhop hrest

/-- A hop leads to one place only. -/
theorem exists_hop_iff {P : Scene → Nat → Prop} (h : d.Hop s i mid j) :
    (∃ first next, d.Hop s i first next ∧ P first next) ↔ P mid j := by
  constructor
  · rintro ⟨first, next, hhop, hP⟩
    have hsame := (hop_iff.mp hhop).symm.trans (hop_iff.mp h)
    simp only [Prod.mk.injEq, Except.ok.injEq, Step.pass.injEq] at hsame
    obtain ⟨rfl, rfl⟩ := hsame
    exact hP
  · intro hP
    exact ⟨mid, j, h, hP⟩

/-- What is found within a bound is found at once, or after a hop within a bound that is smaller. -/
theorem exists_hops_lt_succ {bound : Nat} {P : Scene → Nat → Prop} :
    (∃ k mid j, k < bound + 1 ∧ d.Hops k s i mid j ∧ P mid j) ↔
      P s i ∨ ∃ first next, d.Hop s i first next ∧
        ∃ k mid j, k < bound ∧ d.Hops k first next mid j ∧ P mid j := by
  constructor
  · rintro ⟨k, mid, j, hk, hhops, hP⟩
    cases hhops with
    | refl => exact .inl hP
    | head hhop hrest => exact .inr ⟨_, _, hhop, _, mid, j, by omega, hrest, hP⟩
  · rintro (hP | ⟨first, next, hhop, k, mid, j, hk, hhops, hP⟩)
    · exact ⟨0, s, i, by omega, .refl s i, hP⟩
    · exact ⟨k + 1, mid, j, by omega, .head hhop hhops, hP⟩

/-! ## Walks -/

/-- A walk comes to rest where the hops do, if they do so within the bound. -/
theorem walk_eq_ok_iff {cursor bound : Nat} :
    d.walk cursor bound s i = (.ok r, after) ↔
      ∃ k mid j, k < bound ∧ d.Hops k s i mid j ∧ d.Stops mid j r after := by
  induction bound generalizing s i with
  | zero => simp [walk]
  | succ bound ih =>
    rw [walk, exists_hops_lt_succ (P := fun mid j => d.Stops mid j r after), stops_iff]
    split
    next next mid hvisit =>
      rw [ih, exists_hop_iff (hop_iff.mpr hvisit)]
      simp [hvisit]
    next hvisit => simp [hop_iff, hvisit]
    next hvisit => simp [hop_iff, hvisit]

/-- A walk fails where the hops do, if they do so within the bound, and at the bound. -/
theorem walk_eq_error_iff {cursor bound : Nat} :
    (d.walk cursor bound s i).1 = .error e ↔
      (∃ k mid j, k < bound ∧ d.Hops k s i mid j ∧ d.Breaks mid j e) ∨
        e = .infiniteLoop hopLimit d.name cursor ∧ ∃ mid j, d.Hops bound s i mid j := by
  induction bound generalizing s i with
  | zero =>
    constructor
    · intro h
      cases h
      exact .inr ⟨rfl, s, i, .refl s i⟩
    · rintro (⟨k, -, -, hk, -⟩ | ⟨rfl, -⟩)
      · omega
      · rfl
  | succ bound ih =>
    have hsucc : (∃ mid j, d.Hops (bound + 1) s i mid j) ↔
        ∃ first next, d.Hop s i first next ∧ ∃ mid j, d.Hops bound first next mid j := by
      simp only [hops_succ_iff]
      constructor
      · rintro ⟨mid, j, first, next, hhop, hrest⟩
        exact ⟨first, next, hhop, mid, j, hrest⟩
      · rintro ⟨first, next, hhop, mid, j, hrest⟩
        exact ⟨mid, j, first, next, hhop, hrest⟩
    rw [walk, exists_hops_lt_succ (P := fun mid j => d.Breaks mid j e), breaks_iff, hsucc]
    split
    next next mid hvisit =>
      rw [ih, exists_hop_iff (hop_iff.mpr hvisit), exists_hop_iff (hop_iff.mpr hvisit)]
      simp [hvisit]
    next hvisit => simp [hop_iff, hvisit]
    next hvisit => simp [hop_iff, hvisit]

/-- A reader comes to rest exactly where the unbounded iteration of hops does if at most 99 nodes
are passed before, and in the scene that these hops make. It fails with the error of the first visit
that fails, if that is one of the first 100. That it goes in circles is reported exactly if the
first 100 nodes are all passed, and so whenever a walk would never end. -/
theorem settle_iff_hops (d : Document) (cursor : Nat) (s : Scene) (first : Nat) :
    (∀ r after, d.settle cursor s first = (.ok r, after) ↔
      ∃ k mid i, k ≤ 99 ∧ d.Hops k s first mid i ∧ d.Stops mid i r after) ∧
    (∀ e, (d.settle cursor s first).1 = .error e ↔
      (∃ k mid i, k ≤ 99 ∧ d.Hops k s first mid i ∧ d.Breaks mid i e) ∨
        e = .infiniteLoop 100 d.name cursor ∧ ∃ mid i, d.Hops 100 s first mid i) ∧
    ((∃ e, (d.settle cursor s first).1 = .error e ∧ e.report.code = "READER_INFINITE_LOOP") ↔
      ∃ mid i, d.Hops 100 s first mid i) ∧
    ((∀ k, ∃ mid i, d.Hops k s first mid i) →
      (d.settle cursor s first).1 = .error (.infiniteLoop 100 d.name cursor)) := by
  have hbound (k : Nat) : k < hopLimit ↔ k ≤ 99 := Nat.lt_succ_iff
  have herror : ∀ e, (d.settle cursor s first).1 = .error e ↔
      (∃ k mid i, k ≤ 99 ∧ d.Hops k s first mid i ∧ d.Breaks mid i e) ∨
        e = .infiniteLoop 100 d.name cursor ∧ ∃ mid i, d.Hops 100 s first mid i := by
    intro e
    rw [settle_eq_error, walk_eq_error_iff]
    simp only [hbound]
    rfl
  refine ⟨?_, herror, ⟨?_, ?_⟩, ?_⟩
  · intro r after
    rw [settle_eq_ok, walk_eq_ok_iff]
    simp only [hbound]
  · rintro ⟨e, he, hcode⟩
    rcases (herror e).mp he with ⟨k, mid, i, -, -, hbreaks⟩ | ⟨-, hhops⟩
    · exact absurd hcode hbreaks.code_ne
    · exact hhops
  · intro hhops
    exact ⟨_, (herror _).mpr (.inr ⟨rfl, hhops⟩), rfl⟩
  · intro hendless
    exact (herror _).mpr (.inr ⟨rfl, hendless 100⟩)

end DialogueTree.Document
