import DialogueTree.Proofs.Document.WellFormed
import DialogueTree.Proofs.Reader.Evaluation
import DialogueTree.Proofs.Reader.Pass

/-!
# Walks through well-formed documents

What the absence of issues buys a reader. Every node that a walk visits stands behind an edge, and
in a well-formed document such a node has an entry, which the kinds that no walk should pass do not
have. Errors that name a missing link are left for the few kinds whose exits are not checked.

Results:
* `Document.WellFormed.node?_of_leads`: which nodes are visited.
* `Document.WellFormed.fails_spec`: which errors a visit ends in.
* `Session.Reachable.sound`: both, for all that a host can ask of a reader.
-/

namespace DialogueTree

/-! ## Codes of errors -/

theorem ReaderError.code_unexpectedNode {e : ReaderError}
    (h : e.report.code = "READER_UNEXPECTED_NODE") :
    (∃ type i, e = .unexpectedNode type i) ∨ ∃ i content, e = .notLogic i content := by
  cases e with
  | unexpectedNode type i => exact .inl ⟨type, i, rfl⟩
  | notLogic i content => exact .inr ⟨i, content, rfl⟩
  | _ => exact absurd h (by simp [report])

theorem ReaderError.code_danglingEdge {e : ReaderError}
    (h : e.report.code = "READER_DANGLING_EDGE") :
    (∃ i tree count, e = .missingNode i tree count) ∨
      ∃ type i slot, e = .nothingAtSlot type i slot := by
  cases e with
  | missingNode i tree count => exact .inl ⟨i, tree, count, rfl⟩
  | nothingAtSlot type i slot => exact .inr ⟨type, i, slot, rfl⟩
  | _ => exact absurd h (by simp [report])

/-- Whether an error is one of evaluating a node with all its links in place. -/
def ReaderError.IsEvaluation : ReaderError → Prop
  | operandNotVariable .. | unresolvedVariable .. | divisionByZero .. => True
  | _ => False

/-- Whether an error tells of a node or an exit on the way that is not there or not to be passed. -/
def ReaderError.IsStray : ReaderError → Prop
  | missingNode .. | nothingAtSlot .. | unexpectedNode .. | notLogic .. => True
  | _ => False

theorem ReaderError.isStray_of_code {e : ReaderError}
    (h : e.report.code = "READER_UNEXPECTED_NODE" ∨ e.report.code = "READER_DANGLING_EDGE") :
    e.IsStray := by
  rcases h with h | h
  · rcases code_unexpectedNode h with ⟨type, i, rfl⟩ | ⟨i, content, rfl⟩ <;> trivial
  · rcases code_danglingEdge h with ⟨i, tree, count, rfl⟩ | ⟨type, i, slot, rfl⟩ <;> trivial

theorem ReaderError.IsEvaluation.not_isStray {e : ReaderError} (h : e.IsEvaluation) :
    ¬e.IsStray := by
  cases e <;> first | exact h.elim | exact id

namespace Document.WellFormed

variable {d : Document} {s after : Scene} {i : Nat} {n : Node} {e : ReaderError}

/-! ## Evaluation -/

/-- Operands are not missing, since the entries of a node come from nodes. -/
theorem isEvaluation_of_solve (h : d.WellFormed) (hn : d.node? i = some n)
    (hcomp : n.content.computes = true) (he : s.solve d n = .error e) : e.IsEvaluation := by
  cases Scene.unsolved_of_solve he with
  | notLogic hnot => cases hcomp.symm.trans hnot
  | missing hsource hmissing =>
    obtain ⟨link, hlink, -, rfl⟩ := Node.exists_of_linkedAt? hsource
    obtain ⟨m, hm, -⟩ := h.sourced hn link hlink
    cases hm.symm.trans hmissing
  | operand | reference | division => trivial

/-! ## Visits -/

/-- A node that an edge leads to is none of those that no walk should pass. -/
theorem node?_of_leads (h : d.WellFormed) {source : Nat} (hleads : d.Leads source i) :
    ∃ n, d.node? i = some n ∧ n.type ≠ .info ∧ n.type ≠ .comment ∧ n.type ≠ .start ∧
      ∀ id, n.content ≠ .teleport false id := by
  obtain ⟨n, hn, hne⟩ := h.exists_input hleads
  refine ⟨n, hn, ?_, ?_, ?_, ?_⟩
  · intro htype
    exact hne (h.passive hn (.inl htype)).1
  · intro htype
    exact hne (h.passive hn (.inr htype)).1
  · intro htype
    cases hc : n.content with
    | start id => exact hne (h.start hn hc)
    | _ => simp [Node.type, hc, Content.type] at htype
  · intro id hc
    exact hne (h.teleportOut hn hc)

/-- Nodes that compute in a well-formed document are wired for both outcomes, but for changes of
the way in, which have only one. -/
theorem type_of_computeExit (h : d.WellFormed) (hn : d.node? i = some n) {passed : Bool}
    (hcomp : n.content.computes = true) (hsolve : s.solve d n = .ok (after, passed))
    (hout : n.outputAt? (if passed then 0 else 1) = none) :
    n.type = .startChange ∧ passed = true := by
  cases hc : n.content with
  | startChange id =>
    simp only [Scene.solve, hc, Except.ok.injEq, Prod.mk.injEq] at hsolve
    exact ⟨by simp [Node.type, hc, Content.type], hsolve.2.symm⟩
  | logic | edit =>
    have hexits := h.exits hn (by simp [Node.type, hc, Content.type])
    cases passed with
    | true => exact absurd hout hexits.1
    | false => exact absurd hout hexits.2
  | _ => simp [hc, Content.computes] at hcomp

/-- What a visit can fail with: evaluation, a jump without an end, a variable in the way, or one
of the exits that are not checked. -/
theorem fails_spec (h : d.WellFormed) (hn : d.node? i = some n)
    (hleads : ∃ source, d.Leads source i) (hf : d.Fails s i n after e) :
    e.IsEvaluation ∨ (∃ id, e = .teleportTargetMissing id i) ∨
      (n.type = .variable ∧ e = .unexpectedNode .variable i) ∨
      ∃ k m, d.node? k = some m ∧
        (k = i ∧ (m.type = .newSpeaker ∨ m.type = .startChange) ∨
          ∃ id, n.content = .teleport true id ∧ d.teleportOut? id = some k) ∧
        m.outputAt? 0 = none ∧ e = .nothingAtSlot m.type k 0 := by
  obtain ⟨source, hleads⟩ := hleads
  obtain ⟨n', hn', hinfo, hcomment, hstart, hend⟩ := h.node?_of_leads hleads
  obtain rfl : n = n' := Option.some.inj (hn.symm.trans hn')
  cases hf with
  | solve hcomp he => exact .inl (h.isEvaluation_of_solve hn hcomp he)
  | computeExit hcomp hsolve hout =>
    obtain ⟨htype, rfl⟩ := h.type_of_computeExit hn hcomp hsolve hout
    exact .inr (.inr (.inr ⟨i, n, hn, .inl ⟨rfl, .inr htype⟩, hout, by rw [h.index hn]; rfl⟩))
  | newSpeakerExit hc hout =>
    have htype : n.type = .newSpeaker := by simp [Node.type, hc, Content.type]
    exact .inr (.inr (.inr ⟨i, n, hn, .inl ⟨rfl, .inl htype⟩, hout, by rw [h.index hn]⟩))
  | noTarget => exact .inr (.inl ⟨_, rfl⟩)
  | targetExit hc htarget hm hout =>
    exact .inr (.inr (.inr ⟨_, _, hm, .inr ⟨_, hc, htarget⟩, hout, by rw [h.index hm]⟩))
  | outExit hc => exact absurd hc (hend _)
  | unexpected htype =>
    rcases htype with htype | htype | htype | htype
    · exact absurd htype hinfo
    · exact absurd htype hstart
    · exact .inr (.inr (.inl ⟨htype, by rw [htype]⟩))
    · exact absurd htype hcomment

end Document.WellFormed

/-! ## Walks -/

namespace Pass

variable {w : Pass} {e : ReaderError}

/-- A walk fails where its last visit does, unless it has made too many. -/
theorem result_eq_error (h : w.result = .error e) :
    (∃ v after, w.visits.getLast? = some v ∧
      w.document.visit v.scene v.position = (.error e, after)) ∨
    e = .infiniteLoop hopLimit w.document.name w.conversation.cursor := by
  unfold result Conversation.follow at h
  dsimp only at h
  split at h
  · cases h
  next e' after hsettle =>
    cases h
    unfold Document.settle at hsettle
    split at hsettle
    · cases hsettle
    next e'' after' hwalk =>
      cases hsettle
      rcases Document.walk_eq_error hwalk with ⟨v, hlast, hv⟩ | hloop
      · exact .inl ⟨v, _, hlast, hv⟩
      · exact .inr hloop

end Pass

namespace Session

variable {s : Session} {e : ReaderError}

/-- Why there is no way into a tree. -/
theorem entry_eq_error {d : Document} {id : Int32} (h : d.entry id = .error e) :
    e = .startNotFound d.name id ∨ ∃ i, e = .startNoSingleExit i := by
  unfold Document.entry at h
  split at h
  · cases h
    exact .inl rfl
  next i hstart =>
    obtain ⟨n, hn, -⟩ := Document.node?_of_findStart? hstart
    rw [Document.nodeAt_eq_ok.mpr hn, Outcome.bind_ok] at h
    split at h
    · cases h
    · cases h
      exact .inr ⟨i, rfl⟩

/-- Why there is no way on from a node. -/
theorem onward_eq_error {d : Document} {cursor : Nat} {n : Node} (hn : d.node? cursor = some n)
    (h : d.onward cursor = .error e) :
    e = .noSingleExit n.type n.index n.outputs.length cursor := by
  unfold Document.onward at h
  rw [Document.nodeAt_eq_ok.mpr hn, Outcome.bind_ok] at h
  split at h <;> cases h
  rfl

/-- Why an answer leads nowhere. -/
theorem answered_eq_error {d : Document} {cursor choice : Nat} {n : Node}
    (hn : d.node? cursor = some n) (h : d.answered cursor choice = .error e) :
    e = .notOnBranch n.type cursor ∨ e = .choiceNotFound cursor choice := by
  unfold Document.answered at h
  rw [Document.nodeAt_eq_ok.mpr hn, Outcome.bind_ok] at h
  split at h
  · split at h <;> cases h
    exact .inr rfl
  · cases h
    exact .inl rfl

theorem advance_of_no_pass (h : s.Settled) (hpass : s.pass? (.call .advance) = none)
    (he : s.advance.1 = .error e) : ¬e.IsStray := by
  cases hc : s.conversation? with
  | none =>
    have hl : s.loaded? = none := by simpa [conversation?] using hc
    obtain rfl : .noTree = e := by simpa [advance, hl] using he
    exact id
  | some c =>
    rw [(advance_conversation hc).1] at he
    obtain ⟨e', hexit⟩ := error_of_passFrom?_eq_none hc hpass
    rw [Conversation.advance, hexit] at he
    cases he
    obtain ⟨n, hn⟩ := h.exists_node hc
    rw [onward_eq_error hn hexit]
    exact id

theorem choose_of_no_pass (h : s.Settled) {choice : Nat}
    (hpass : s.pass? (.call (.choose choice)) = none) (he : (s.choose choice).1 = .error e) :
    ¬e.IsStray := by
  cases hc : s.conversation? with
  | none =>
    have hl : s.loaded? = none := by simpa [conversation?] using hc
    obtain rfl : .noTree = e := by simpa [choose, hl] using he
    exact id
  | some c =>
    rw [(choose_conversation hc choice).1] at he
    obtain ⟨e', hexit⟩ := error_of_passFrom?_eq_none hc hpass
    rw [Conversation.choose, hexit] at he
    cases he
    obtain ⟨n, hn⟩ := h.exists_node hc
    rcases answered_eq_error hn hexit with rfl | rfl <;> exact id

theorem jump_eq_error {i : Nat} (he : (s.jump i).1 = .error e) : ¬e.IsStray := by
  unfold jump at he
  split at he
  · cases he
    exact id
  · split at he
    · cases he
    next hrest =>
      cases he
      unfold Document.resting at hrest
      split at hrest
      · cases hrest
        exact id
      · split at hrest <;> cases hrest
        exact id

theorem load_of_no_pass {tree : Nat} {start : Option Int32}
    (hpass : s.opening? tree start = none) (he : (s.load tree start).1 = .error e) :
    ¬e.IsStray := by
  unfold load at he
  dsimp only at he
  split at he
  · cases he
    exact id
  next t ht =>
    split at he
    next e' hentry =>
      cases he
      rcases entry_eq_error hentry with rfl | ⟨i, rfl⟩ <;> exact id
    next startNode first hentry =>
      rw [opening?, ht, Option.bind_some, hentry] at hpass
      cases hpass

/-- A reader that does not even start to walk, strays nowhere. -/
theorem error_of_no_pass (h : s.Settled) {a : Action} (hpass : s.pass? a = none)
    (he : (a.run s).1.result? = some (.error e)) : ¬e.IsStray := by
  cases a with
  | load tree start =>
    cases hr : (s.load tree start).1 with
    | ok report =>
      simp [Action.run, Reply.result?, hr, Except.map] at he
    | error e' =>
      obtain rfl : e' = e := by simpa [Action.run, Reply.result?, hr, Except.map] using he
      exact load_of_no_pass hpass hr
  | unload | resume => cases he
  | call c =>
    cases c with
    | advance => exact advance_of_no_pass h hpass (Option.some.inj he)
    | choose choice => exact choose_of_no_pass h hpass (Option.some.inj he)
    | jump i => exact jump_eq_error (Option.some.inj he)
    | _ => cases he

/-- Where a reader strays in a well-formed document: at a variable that is in the way, or at one of
the exits that are not checked. -/
theorem stray_spec (h : s.Settled) {a : Action}
    (hvalid : ∀ w, s.pass? a = some w → w.document.issues = [])
    (he : (a.run s).1.result? = some (.error e)) (hstray : e.IsStray) :
    ∃ w v n, s.pass? a = some w ∧ w.visits.getLast? = some v ∧
      w.document.node? v.position = some n ∧
      (n.type = .variable ∧ e = .unexpectedNode .variable v.position ∨
        ∃ k m, w.document.node? k = some m ∧
          (k = v.position ∧ (m.type = .newSpeaker ∨ m.type = .startChange) ∨
            ∃ id, n.content = .teleport true id ∧ w.document.teleportOut? id = some k) ∧
          m.outputAt? 0 = none ∧ e = .nothingAtSlot m.type k 0) := by
  cases hpass : s.pass? a with
  | none => exact absurd hstray (error_of_no_pass h hpass he)
  | some w =>
    have hwf := Document.wellFormed_of_issues (hvalid w hpass)
    have hresult : w.result = .error e := Option.some.inj ((result?_run hpass).symm.trans he)
    rcases w.result_eq_error hresult with ⟨v, after, hlast, hvisit⟩ | rfl
    · have hleads := Document.leads_of_visits ⟨_, leads_of_pass? hpass⟩ (List.mem_of_getLast? hlast)
      obtain ⟨n, hn, -⟩ := hwf.node?_of_leads hleads.choose_spec
      rcases Document.visit_eq_error hvisit with ⟨hmissing, -⟩ | ⟨n', hn', hfails⟩
      · rw [hn] at hmissing
        cases hmissing
      · obtain rfl : n = n' := Option.some.inj (hn.symm.trans hn')
        refine ⟨w, v, n, rfl, hlast, hn, ?_⟩
        rcases hwf.fails_spec hn hleads hfails with heval | ⟨id, rfl⟩ | hvariable | hexit
        · exact absurd hstray heval.not_isStray
        · exact hstray.elim
        · exact .inl hvariable
        · exact .inr hexit
    · exact hstray.elim

/-- In a document without issues no walk visits an info node, a comment, a start node or the far
end of a jump. Nothing but a variable in the way is reported as unexpected, and the missing edges
that are reported are the first exits of changes of the speaker, changes of the way in and far ends
of jumps. -/
theorem Reachable.sound (h : s.Reachable) (a : Action)
    (hvalid : ∀ w, s.pass? a = some w → w.document.issues = []) :
    (∀ w, s.pass? a = some w → ∀ v ∈ w.visits, ∃ n, w.document.node? v.position = some n ∧
      n.type ≠ .info ∧ n.type ≠ .comment ∧ n.type ≠ .start ∧
      ∀ id, n.content ≠ .teleport false id) ∧
    ∀ e, (a.run s).1.result? = some (.error e) →
      (e.report.code = "READER_UNEXPECTED_NODE" → ∃ w v n, s.pass? a = some w ∧
        w.visits.getLast? = some v ∧ w.document.node? v.position = some n ∧
        n.type = .variable ∧ e = .unexpectedNode .variable v.position) ∧
      (e.report.code = "READER_DANGLING_EDGE" → ∃ w v n k m, s.pass? a = some w ∧
        w.visits.getLast? = some v ∧ w.document.node? v.position = some n ∧
        w.document.node? k = some m ∧
        (k = v.position ∧ (m.type = .newSpeaker ∨ m.type = .startChange) ∨
          ∃ id, n.content = .teleport true id ∧ w.document.teleportOut? id = some k) ∧
        m.outputAt? 0 = none ∧ e = .nothingAtSlot m.type k 0) := by
  refine ⟨fun w hpass v hv => ?_, fun e he => ⟨fun hcode => ?_, fun hcode => ?_⟩⟩
  · have hwf := Document.wellFormed_of_issues (hvalid w hpass)
    obtain ⟨source, hleads⟩ := Document.leads_of_visits ⟨_, leads_of_pass? hpass⟩ hv
    exact hwf.node?_of_leads hleads
  · have hstray := ReaderError.isStray_of_code (.inl hcode)
    obtain ⟨w, v, n, hpass, hlast, hn, hcase⟩ := stray_spec h.settled hvalid he hstray
    rcases hcase with hvariable | ⟨k, m, -, -, -, rfl⟩
    · exact ⟨w, v, n, hpass, hlast, hn, hvariable⟩
    · exact absurd hcode (by simp [ReaderError.report])
  · have hstray := ReaderError.isStray_of_code (.inr hcode)
    obtain ⟨w, v, n, hpass, hlast, hn, hcase⟩ := stray_spec h.settled hvalid he hstray
    rcases hcase with ⟨-, rfl⟩ | ⟨k, m, hm, hwhich, hout, rfl⟩
    · exact absurd hcode (by simp [ReaderError.report])
    · exact ⟨w, v, n, k, m, hpass, hlast, hn, hm, hwhich, hout, rfl⟩

/-- Going on from the line of the guest visits the change of the speaker and the goodbye. -/
theorem Reachable.counted_sound :
    Document.counted.issues = [] ∧
    ∃ w, counted.pass? (.call .advance) = some w ∧ w.document = .counted ∧
      w.visits.map (·.position) = [5, 6] ∧
      ∀ v ∈ w.visits, ∃ n, w.document.node? v.position = some n ∧ n.type ≠ .info ∧
        n.type ≠ .comment ∧ n.type ≠ .start ∧ ∀ id, n.content ≠ .teleport false id := by
  have hissues : Document.counted.issues = [] := by decide
  obtain ⟨w, hw, hdoc, hvisits⟩ : ∃ w, counted.pass? (.call .advance) = some w ∧
      w.document = .counted ∧ w.visits.map (·.position) = [5, 6] := ⟨_, rfl, rfl, rfl⟩
  have hvalid : ∀ w', counted.pass? (.call .advance) = some w' → w'.document.issues = [] := by
    intro w' hw'
    obtain rfl : w = w' := Option.some.inj (hw.symm.trans hw')
    rw [hdoc, hissues]
  exact ⟨hissues, w, hw, hdoc, hvisits, (sound counted_reachable _ hvalid).1 w hw⟩

end Session

end DialogueTree
