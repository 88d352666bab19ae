import DialogueTree.Proofs.Library.Sources
import DialogueTree.Proofs.Reader.Pass
import DialogueTree.Scenario.Run

/-!
# What a case records

A run of a case is bounded, counts its steps and answers, and collects its events backwards. What it
records is told here without any of these: a conversation `ComesTo` a stop if it is led through its
lines and takes the answers of the case in order until it shows that stop. The counters of the run
always say how many events there are, and how many of them are questions (`Progress.Tallies`), so
the stops alone decide how the run ends (`Verdict`).

Results:
* `Session.ComesTo.length_choices`, `Session.ComesTo.choices_lt`: the answers taken on the way.
* `Progress.Tallies.answer`, `Progress.Tallies.run`: the counters, in one step and in a whole run.
* `Progress.run_eq_iff`, `TestCase.run_eq_iff`: a run concludes at the stop to which the
  conversation comes.
* `TestCase.compare_eq_ok`: a record passes exactly if it is what is expected.
-/

namespace DialogueTree

namespace Event

/-- Whether an event is a question. -/
def isBranch : Event → Bool
  | .branch .. => true
  | _ => false

theorem isBranch_ofStop {stop : Stop} {question : String} {answers : List Answer}
    (h : stop.output = .branch question answers) : (ofStop stop).isBranch = true := by
  rw [ofStop, h]
  rfl

theorem not_isBranch_ofStop {stop : Stop} {text : String} (h : stop.output = .dialogue text) :
    ¬(ofStop stop).isBranch = true := by
  rw [ofStop, h]
  exact Bool.false_ne_true

theorem ofStop_of_finish {stop : Stop} (h : stop.output = .finish) : ofStop stop = .finish := by
  rw [ofStop, h]

end Event

/-! ## Conversations led to a stop -/

namespace Session

/-- A conversation passes stops, and shows another one with some of its answers left. `announce`
asks for the first speaker. -/
inductive ComesTo : Bool → Session → List Nat → List Stop → Stop → List Nat → Prop
  | here {announce : Bool} {s noted : Session} {stop : Stop} {choices : List Nat} :
      s.stop announce = (.ok stop, noted) → ComesTo announce s choices [] stop choices
  | dialogue {announce : Bool} {s noted next : Session} {shown last : Stop} {text : String}
      {type : NodeType} {choices rest : List Nat} {passed : List Stop} :
      s.stop announce = (.ok shown, noted) → shown.output = .dialogue text →
      noted.advance = (.ok type, next) → ComesTo false next choices passed last rest →
      ComesTo announce s choices (shown :: passed) last rest
  | branch {announce : Bool} {s noted next : Session} {shown last : Stop} {question : String}
      {answers : List Answer} {type : NodeType} {choice : Nat} {choices rest : List Nat}
      {passed : List Stop} :
      s.stop announce = (.ok shown, noted) → shown.output = .branch question answers →
      noted.choose choice = (.ok type, next) → ComesTo false next choices passed last rest →
      ComesTo announce s (choice :: choices) (shown :: passed) last rest

variable {s noted next : Session} {announce : Bool} {choices rest : List Nat} {passed : List Stop}
  {stop last : Stop}

/-- Nothing that is passed is an end. -/
theorem ComesTo.finish_notMem (h : ComesTo announce s choices passed last rest) :
    .finish ∉ passed.map Event.ofStop := by
  induction h with
  | here => exact List.not_mem_nil
  | dialogue _ hout _ _ ih => simp [Event.ofStop, hout, ih]
  | branch _ hout _ _ ih => simp [Event.ofStop, hout, ih]

/-- Each question that is passed takes one answer. -/
theorem ComesTo.length_choices (h : ComesTo announce s choices passed last rest) :
    (passed.map Event.ofStop).countP (·.isBranch) + rest.length = choices.length := by
  induction h with
  | here => rw [List.map_nil, List.countP_nil, Nat.zero_add]
  | dialogue _ hout _ _ ih =>
    rw [List.map_cons, List.countP_cons_of_neg (Event.not_isBranch_ofStop hout), ih]
  | branch _ hout _ _ ih =>
    rw [List.map_cons, List.countP_cons_of_pos (Event.isBranch_ofStop hout), List.length_cons,
      ← ih, Nat.add_right_comm]

theorem documents_stop {stop : Except ReaderError Stop} (h : s.stop announce = (stop, noted)) :
    noted.library.documents = s.library.documents := by
  cases h
  rfl

theorem documents_of_follow (exit : Document → Nat → Except ReaderError Nat) {type : NodeType}
    (h : s.follow exit = (.ok type, next)) : next.library.documents = s.library.documents := by
  have hkept := s.documents_follow exit
  rwa [h] at hkept

/-- An answer that is taken leaves by its slot. -/
theorem exists_of_choose {choice : Nat} {type : NodeType}
    (h : s.choose choice = (.ok type, next)) :
    ∃ d ∈ s.library.documents, ∃ n ∈ d.nodes, ∃ link ∈ n.outputs, link.slot = choice := by
  unfold choose at h
  split at h
  · cases h
  next p t hl =>
    split at h
    next first hfirst =>
      obtain ⟨n, hn, hout⟩ := answered_eq_ok hfirst
      obtain ⟨link, hlink, hslot, -⟩ := Node.exists_of_linkedAt? hout
      have ht := List.mem_of_getElem? (loaded?_eq_some.mp hl).2
      exact ⟨t.document, List.mem_map_of_mem ht, n, List.mem_of_getElem? hn, link, hlink, hslot⟩
    · cases h

/-- Only answers of 64 bits are taken where slots are of 64 bits. -/
theorem ComesTo.choices_lt (h : ComesTo announce s choices passed last rest)
    (hexits : ∀ d ∈ s.library.documents, d.HasIndexedExits)
    (hrest : ∀ choice ∈ rest, choice < indexLimit) : ∀ choice ∈ choices, choice < indexLimit := by
  induction h with
  | here => exact hrest
  | dialogue hstop _ hgo _ ih =>
    refine ih ?_ hrest
    rwa [documents_of_follow Document.onward hgo, documents_stop hstop]
  | @branch _ _ _ _ _ _ _ _ _ choice _ _ _ hstop _ hgo _ ih =>
    intro c hc
    rcases List.mem_cons.mp hc with rfl | hc
    · obtain ⟨d, hd, n, hn, link, hlink, rfl⟩ := exists_of_choose hgo
      rw [documents_stop hstop] at hd
      exact (hexits d hd n hn link hlink).2
    · refine ih ?_ hrest c hc
      rwa [documents_of_follow (·.answered · choice) hgo, documents_stop hstop]

end Session

/-! ## Conclusions -/

/-- Whether a run ends with a record, for lack of answers, or with answers left. -/
def Concludes : Except ScenarioError RunReport → Prop
  | .ok _ | .error (.missingChoice _) | .error (.unusedChoices ..) => True
  | _ => False

/-- How a run ends that has passed events and is shown an output with some answers left. -/
inductive Verdict (passed : List Event) :
    Output → List Nat → Except ScenarioError RunReport → Prop
  | record : Verdict passed .finish []
      (.ok ⟨passed ++ [.finish], passed.countP (·.isBranch), passed.length + 1⟩)
  | missing (question : String) (answers : List Answer) :
      Verdict passed (.branch question answers) [] (.error (.missingChoice passed.length))
  | unused (choice : Nat) (rest : List Nat) : Verdict passed .finish (choice :: rest)
      (.error (.unusedChoices (passed.countP (·.isBranch))
        (passed.countP (·.isBranch) + (choice :: rest).length)))

/-! ## Counters -/

namespace Progress

variable {choices : List Nat} {p recorded next : Progress} {stop last : Stop} {noted : Session}
  {output : Output} {r : RunReport} {rounds : Nat}

theorem record_eq_ok :
    p.record = .ok (stop, recorded) ↔ ∃ noted, p.session.stop (p.step == 1) = (.ok stop, noted) ∧
      recorded = { p with session := noted, events := .ofStop stop :: p.events } := by
  unfold record
  rcases p.session.stop (p.step == 1) with ⟨⟨e⟩ | ⟨stop'⟩, noted⟩
  · simp
  · simp only [Except.ok.injEq, Prod.mk.injEq, and_assoc]
    constructor
    · rintro ⟨rfl, rfl⟩
      exact ⟨noted, rfl, rfl, rfl⟩
    · rintro ⟨_, rfl, rfl, rfl⟩
      exact ⟨rfl, rfl⟩

theorem record_eq_error {e : ScenarioError} (h : p.record = .error e) :
    ∃ e', e = .ofReader e' := by
  unfold record at h
  split at h
  · cases h
  · cases h
    exact ⟨_, rfl⟩

/-- How a run goes on from a stop. -/
theorem answer_cases (h : p.answer choices output = .ok (some next)) :
    (∃ text type s, output = .dialogue text ∧ p.session.advance = (.ok type, s) ∧
      next = { p with session := s, step := p.step + 1 }) ∨
    (∃ question answers choice type s, output = .branch question answers ∧
      choices[p.used]? = some choice ∧ p.session.choose choice = (.ok type, s) ∧
      next = { p with session := s, step := p.step + 1, used := p.used + 1 }) := by
  unfold answer at h
  split at h
  next text =>
    split at h
    next type s hgo =>
      cases h
      exact .inl ⟨text, type, s, rfl, hgo, rfl⟩
    · cases h
  next question answers =>
    split at h
    · cases h
    next choice hchoice =>
      split at h
      next type s hgo =>
        cases h
        exact .inr ⟨question, answers, choice, type, s, rfl, hchoice, hgo, rfl⟩
      · cases h
  · cases h

theorem answer_eq_none (h : p.answer choices output = .ok none) : output = .finish := by
  unfold answer at h
  split at h
  · split at h <;> cases h
  · split at h
    · cases h
    · split at h <;> cases h
  · rfl

/-- What the counters of a run say: the next step has the number after those of the events so far,
and each question among them has taken one answer of the case. -/
structure Tallies (choices : List Nat) (p : Progress) : Prop where
  step_eq : p.step = p.events.length + 1
  used_eq : p.used = p.events.countP (·.isBranch)
  used_le : p.used ≤ choices.length

/-- The counters are right at the start. -/
theorem tallies_start (choices : List Nat) (s : Session) : Tallies choices { session := s } :=
  ⟨rfl, rfl, Nat.zero_le _⟩

/-- A step that goes on keeps the counters right. -/
theorem Tallies.answer (h : p.Tallies choices) (hrecord : p.record = .ok (stop, recorded))
    (hnext : recorded.answer choices stop.output = .ok (some next)) : next.Tallies choices := by
  obtain ⟨noted, -, rfl⟩ := record_eq_ok.mp hrecord
  rcases answer_cases hnext with ⟨text, type, s, hout, -, rfl⟩ |
    ⟨question, answers, choice, type, s, hout, hchoice, -, rfl⟩
  · refine ⟨congrArg (· + 1) h.step_eq, ?_, h.used_le⟩
    exact h.used_eq.trans (List.countP_cons_of_neg (Event.not_isBranch_ofStop hout)).symm
  · obtain ⟨hlt, -⟩ := List.getElem?_eq_some_iff.mp hchoice
    refine ⟨congrArg (· + 1) h.step_eq, ?_, hlt⟩
    exact (congrArg (· + 1) h.used_eq).trans
      (List.countP_cons_of_pos (Event.isBranch_ofStop hout)).symm

theorem report_eq_ok : p.report choices = .ok r ↔
    p.used = choices.length ∧ r = ⟨p.events.reverse, p.used, p.step⟩ := by
  unfold report
  by_cases h : p.used = choices.length
  · simp [h, eq_comm]
  · simp [h]

/-- A record counts its own events, and the questions among them. -/
theorem Tallies.run (h : p.Tallies choices) (hrun : run choices rounds p = .ok r) :
    r.steps = r.events.length ∧ r.consumed = r.events.countP (·.isBranch) ∧
      r.consumed = choices.length := by
  induction rounds generalizing p with
  | zero => cases hrun
  | succ rounds ih =>
    rw [Progress.run] at hrun
    obtain ⟨⟨stop, recorded⟩, hrecord, hrun⟩ := Outcome.bind_eq_ok.mp hrun
    obtain ⟨next, hanswer, hrun⟩ := Outcome.bind_eq_ok.mp hrun
    cases next with
    | some next => exact ih (h.answer hrecord hanswer) hrun
    | none =>
      obtain ⟨noted, -, rfl⟩ := record_eq_ok.mp hrecord
      obtain ⟨hused, rfl⟩ := report_eq_ok.mp hrun
      have hfinish := Event.ofStop_of_finish (answer_eq_none hanswer)
      refine ⟨?_, ?_, hused⟩
      · rw [List.length_reverse]
        exact h.step_eq
      · rw [hfinish, List.countP_reverse, List.countP_cons_of_neg Bool.false_ne_true, h.used_eq]

/-! ## Runs -/

theorem answer_of_advance (choices : List Nat) {text : String} {type : NodeType} {s : Session}
    (hout : output = .dialogue text) (hgo : p.session.advance = (.ok type, s)) :
    p.answer choices output = .ok (some { p with session := s, step := p.step + 1 }) := by
  rw [hout, answer, hgo]

theorem answer_of_choose {question : String} {answers : List Answer} {choice : Nat}
    {type : NodeType} {s : Session} (hout : output = .branch question answers)
    (hchoice : choices[p.used]? = some choice) (hgo : p.session.choose choice = (.ok type, s)) :
    p.answer choices output =
      .ok (some { p with session := s, step := p.step + 1, used := p.used + 1 }) := by
  rw [hout, answer, hchoice]
  dsimp only
  rw [hgo]

theorem answer_eq_error {e : ScenarioError} (h : p.answer choices output = .error e) :
    (∃ e', e = .ofReader e') ∨
      ∃ question answers, output = .branch question answers ∧ choices[p.used]? = none := by
  unfold answer at h
  split at h
  · split at h
    · cases h
    · cases h
      exact .inl ⟨_, rfl⟩
  next question answers =>
    split at h
    next hnone => exact .inr ⟨question, answers, rfl, hnone⟩
    · split at h
      · cases h
      · cases h
        exact .inl ⟨_, rfl⟩
  · cases h

/-- The answers that are left before one of them is taken. -/
theorem drop_used {choice : Nat} (h : choices[p.used]? = some choice) :
    choices.drop p.used = choice :: choices.drop (p.used + 1) := by
  obtain ⟨hlt, rfl⟩ := List.getElem?_eq_some_iff.mp h
  exact List.drop_eq_getElem_cons hlt

/-- After a step the run is not at its first step, so the speaker is no longer asked for. -/
theorem Tallies.later (h : p.Tallies choices) : (p.step + 1 == 1) = false := by
  rw [h.step_eq]
  exact beq_false_of_ne (by omega)

/-- Where there is a verdict the run ends with it, however it would go on. -/
theorem Tallies.round_of_verdict (h : p.Tallies choices) {x : Except ScenarioError RunReport}
    (hrecord : p.record = .ok (stop, recorded))
    (hx : Verdict p.events.reverse stop.output (choices.drop p.used) x)
    (goOn : Progress → Except ScenarioError RunReport) :
    (do match ← recorded.answer choices stop.output with
        | some next => goOn next
        | none => recorded.report choices) = x := by
  obtain ⟨noted, -, rfl⟩ := record_eq_ok.mp hrecord
  obtain ⟨speaker, output⟩ := stop
  have hle := h.used_le
  have hcount : p.events.reverse.countP (·.isBranch) = p.used := by
    rw [List.countP_reverse, h.used_eq]
  generalize hleft : choices.drop p.used = left at hx
  have hlength : choices.length - p.used = left.length := by rw [← hleft, List.length_drop]
  dsimp only at hx ⊢
  cases hx with
  | record =>
    rw [hcount, List.length_reverse, ← h.step_eq]
    refine report_eq_ok.mpr ⟨Nat.le_antisymm hle (Nat.sub_eq_zero_iff_le.mp hlength), ?_⟩
    rw [Event.ofStop_of_finish rfl, List.reverse_cons]
  | missing question answers =>
    have hnone : choices[p.used]? = none :=
      List.getElem?_eq_none (Nat.sub_eq_zero_iff_le.mp hlength)
    rw [Progress.answer]
    dsimp only
    rw [hnone, List.length_reverse]
    rfl
  | unused choice rest =>
    have htotal : choices.length = p.used + (choice :: rest).length := by omega
    have hunused : p.used ≠ choices.length := by
      rw [htotal, List.length_cons]
      omega
    rw [hcount, ← htotal, Progress.answer, Outcome.bind_ok]
    exact if_pos hunused

/-- Where the run does not go on from a stop, though the reader does not fail, there is a
verdict. -/
theorem Tallies.verdict_of_round (h : p.Tallies choices) {x : Except ScenarioError RunReport}
    (hrecord : p.record = .ok (stop, recorded))
    (hend : recorded.answer choices stop.output = .ok none ∨
      ∃ question answers, stop.output = .branch question answers ∧
        choices[recorded.used]? = none)
    (goOn : Progress → Except ScenarioError RunReport)
    (hx : (do match ← recorded.answer choices stop.output with
        | some next => goOn next
        | none => recorded.report choices) = x) :
    Verdict p.events.reverse stop.output (choices.drop p.used) x := by
  have hused : recorded.used = p.used := by
    obtain ⟨noted, -, rfl⟩ := record_eq_ok.mp hrecord
    rfl
  have hverdict : ∃ y, Verdict p.events.reverse stop.output (choices.drop p.used) y := by
    rcases hend with hnone | ⟨question, answers, hout, hnone⟩
    · rw [answer_eq_none hnone]
      cases choices.drop p.used with
      | nil => exact ⟨_, .record⟩
      | cons choice rest => exact ⟨_, .unused choice rest⟩
    · rw [hused, List.getElem?_eq_none_iff] at hnone
      rw [hout, List.drop_eq_nil_of_le hnone]
      exact ⟨_, .missing question answers⟩
  obtain ⟨y, hy⟩ := hverdict
  obtain rfl := (h.round_of_verdict hrecord hy goOn).symm.trans hx
  exact hy

theorem run_of_comesTo {announce : Bool} {s : Session} {left rest : List Nat}
    {passed : List Stop} {x : Except ScenarioError RunReport}
    (h : s.ComesTo announce left passed last rest) (hp : p.Tallies choices) (hs : p.session = s)
    (hannounce : (p.step == 1) = announce) (hleft : choices.drop p.used = left)
    (hlength : passed.length < rounds)
    (hx : Verdict (p.events.reverse ++ passed.map .ofStop) last.output rest x) :
    run choices rounds p = x := by
  induction h generalizing p rounds with
  | @here _ _ noted _ _ hstop =>
    obtain ⟨rounds, rfl⟩ := Nat.exists_eq_add_one.mpr hlength
    subst hs hannounce hleft
    have hrecord := record_eq_ok.mpr ⟨noted, hstop, rfl⟩
    rw [run, hrecord, Outcome.bind_ok]
    rw [List.map_nil, List.append_nil] at hx
    exact hp.round_of_verdict hrecord hx _
  | @dialogue _ _ noted _ shown _ _ _ _ _ _ hstop hout hgo _ ih =>
    obtain ⟨rounds, rfl⟩ := Nat.exists_eq_add_one.mpr (Nat.zero_lt_of_lt hlength)
    subst hs hannounce hleft
    have hrecord := record_eq_ok.mpr ⟨noted, hstop, rfl⟩
    have hanswer := answer_of_advance choices
      (p := { p with session := noted, events := .ofStop shown :: p.events }) hout hgo
    rw [run, hrecord, Outcome.bind_ok]
    dsimp only
    rw [hanswer, Outcome.bind_ok]
    exact ih (hp.answer hrecord hanswer) rfl hp.later rfl (Nat.lt_of_succ_lt_succ hlength)
      (by simpa using hx)
  | @branch _ _ noted _ shown _ _ _ _ choice _ _ _ hstop hout hgo _ ih =>
    obtain ⟨rounds, rfl⟩ := Nat.exists_eq_add_one.mpr (Nat.zero_lt_of_lt hlength)
    subst hs hannounce
    have hchoice : choices[p.used]? = some choice := by
      rw [← List.head?_drop, hleft]
      rfl
    rw [drop_used hchoice, List.cons.injEq] at hleft
    have hrecord := record_eq_ok.mpr ⟨noted, hstop, rfl⟩
    have hanswer := answer_of_choose
      (p := { p with session := noted, events := .ofStop shown :: p.events }) hout hchoice hgo
    rw [run, hrecord, Outcome.bind_ok]
    dsimp only
    rw [hanswer, Outcome.bind_ok]
    exact ih (hp.answer hrecord hanswer) rfl hp.later hleft.2 (Nat.lt_of_succ_lt_succ hlength)
      (by simpa using hx)

/-- A step that goes on changes no events once its own is recorded. -/
theorem events_of_answer (h : p.answer choices output = .ok (some next)) :
    next.events = p.events := by
  rcases answer_cases h with ⟨_, _, _, -, -, rfl⟩ | ⟨_, _, _, _, _, -, -, -, rfl⟩
  · rfl
  · rfl

/-- A conversation comes to where it comes after its next stop. -/
theorem Tallies.comesTo_of_answer (hp : p.Tallies choices)
    (hrecord : p.record = .ok (stop, recorded))
    (hanswer : recorded.answer choices stop.output = .ok (some next)) {passed : List Stop}
    {rest : List Nat}
    (h : next.session.ComesTo (next.step == 1) (choices.drop next.used) passed last rest) :
    p.session.ComesTo (p.step == 1) (choices.drop p.used) (stop :: passed) last rest := by
  obtain ⟨noted, hstop, rfl⟩ := record_eq_ok.mp hrecord
  rcases answer_cases hanswer with ⟨text, type, s, hout, hgo, rfl⟩ |
    ⟨question, answers, choice, type, s, hout, hchoice, hgo, rfl⟩
  · rw [hp.later] at h
    exact .dialogue hstop hout hgo h
  · rw [hp.later] at h
    rw [drop_used hchoice]
    exact .branch hstop hout hgo h

theorem exists_comesTo (hp : p.Tallies choices) {x : Except ScenarioError RunReport}
    (h : run choices rounds p = x) (hx : Concludes x) :
    ∃ passed last rest, p.session.ComesTo (p.step == 1) (choices.drop p.used) passed last rest ∧
      passed.length < rounds ∧
        Verdict (p.events.reverse ++ passed.map .ofStop) last.output rest x := by
  induction rounds generalizing p with
  | zero =>
    obtain rfl := h
    exact hx.elim
  | succ rounds ih =>
    rw [run] at h
    cases hrecord : p.record with
    | error e =>
      obtain ⟨e, rfl⟩ := record_eq_error hrecord
      rw [hrecord] at h
      obtain rfl := h
      exact hx.elim
    | ok shown =>
      obtain ⟨stop, recorded⟩ := shown
      obtain ⟨noted, hstop, hrecorded⟩ := record_eq_ok.mp hrecord
      rw [hrecord, Outcome.bind_ok] at h
      dsimp only at h
      cases hanswer : recorded.answer choices stop.output with
      | error e =>
        rcases answer_eq_error hanswer with ⟨e, rfl⟩ | hmissing
        · rw [hanswer] at h
          obtain rfl := h
          exact hx.elim
        · have hverdict := hp.verdict_of_round hrecord (.inr hmissing) (run choices rounds) h
          exact ⟨[], stop, _, .here hstop, Nat.succ_pos _, by simpa using hverdict⟩
      | ok goesOn =>
        cases goesOn with
        | none =>
          have hverdict := hp.verdict_of_round hrecord (.inl hanswer) (run choices rounds) h
          exact ⟨[], stop, _, .here hstop, Nat.succ_pos _, by simpa using hverdict⟩
        | some next =>
          rw [hanswer] at h
          obtain ⟨passed, last, rest, hcomes, hlength, hverdict⟩ := ih (hp.answer hrecord hanswer) h
          have hevents : next.events = .ofStop stop :: p.events :=
            (events_of_answer hanswer).trans (congrArg Progress.events hrecorded)
          rw [hevents] at hverdict
          exact ⟨stop :: passed, last, rest, hp.comesTo_of_answer hrecord hanswer hcomes,
            Nat.succ_lt_succ hlength, by simpa using hverdict⟩

end Progress

namespace TestCase

variable {c : TestCase} {l : Library} {r : RunReport}

/-- A case concludes at the stop to which the conversation comes, by the answers that are left
there. -/
theorem run_eq_iff {x : Except ScenarioError RunReport} (hx : Concludes x) :
    c.run l = x ↔ ∃ report s passed last rest, l.start c.tree c.start = (.ok report, s) ∧
      s.ComesTo true c.choices passed last rest ∧ passed.length < Progress.stepLimit ∧
        Verdict (passed.map .ofStop) last.output rest x := by
  unfold run
  rcases l.start c.tree c.start with ⟨⟨e⟩ | ⟨report⟩, s⟩
  · constructor
    · rintro rfl
      exact hx.elim
    · rintro ⟨_, _, _, _, _, hstart, -⟩
      cases hstart
  · constructor
    · intro h
      obtain ⟨passed, last, rest, hcomes, hlength, hverdict⟩ :=
        Progress.exists_comesTo (Progress.tallies_start c.choices s) h hx
      exact ⟨report, s, passed, last, rest, rfl, hcomes, hlength, hverdict⟩
    · rintro ⟨_, _, passed, last, rest, ⟨⟩, hcomes, hlength, hverdict⟩
      exact Progress.run_of_comesTo hcomes (Progress.tallies_start c.choices s) rfl rfl rfl hlength
        hverdict

/-- What a case records, and that it uses all its answers for it. -/
theorem run_eq_ok : c.run l = .ok r ↔ ∃ report s passed last,
    l.start c.tree c.start = (.ok report, s) ∧ s.ComesTo true c.choices passed last [] ∧
      last.output = .finish ∧ passed.length < Progress.stepLimit ∧
        r = ⟨(passed ++ [last]).map .ofStop, c.choices.length, passed.length + 1⟩ := by
  have hconcludes : Concludes (.ok r) := trivial
  rw [run_eq_iff hconcludes]
  constructor
  · rintro ⟨report, s, passed, ⟨speaker, output⟩, rest, hstart, hcomes, hlength, hverdict⟩
    cases hverdict
    refine ⟨report, s, passed, _, hstart, hcomes, rfl, hlength, ?_⟩
    have hcount := hcomes.length_choices
    rw [List.length_nil, Nat.add_zero] at hcount
    rw [hcount, List.length_map, List.map_append]
    rfl
  · rintro ⟨report, s, passed, ⟨speaker, output⟩, hstart, hcomes, rfl, hlength, rfl⟩
    refine ⟨report, s, passed, _, [], hstart, hcomes, hlength, ?_⟩
    have hcount := hcomes.length_choices
    rw [List.length_nil, Nat.add_zero] at hcount
    have hlength' : (passed.map Event.ofStop).length = passed.length := List.length_map _
    rw [← hcount, List.map_append, ← hlength']
    exact .record

/-! ## Records that are compared -/

theorem firstDifference_eq_ok {expected actual : List Event}
    (hlength : expected.length = actual.length) (i : Nat) :
    firstDifference expected actual i = .ok () ↔ expected = actual := by
  induction expected generalizing actual i with
  | nil =>
    obtain rfl := List.length_eq_zero_iff.mp hlength.symm
    exact ⟨fun _ => rfl, fun _ => rfl⟩
  | cons e expected ih =>
    cases actual with
    | nil => cases hlength
    | cons a actual =>
      rw [firstDifference]
      by_cases hea : e = a
      · rw [if_pos hea, ih (Nat.succ.inj hlength), hea]
        simp
      · rw [if_neg hea]
        simp [hea]

/-- A record passes exactly if it is what is expected. -/
theorem compare_eq_ok : c.compare r = .ok () ↔ c.expected = r.events := by
  unfold compare
  by_cases hlength : r.events.length = c.expected.length
  · rw [if_neg (not_not_intro hlength)]
    exact firstDifference_eq_ok hlength.symm 0
  · rw [if_pos hlength]
    constructor
    · intro h
      cases h
    · intro h
      exact absurd (congrArg List.length h.symm) hlength

end TestCase

end DialogueTree
