import DialogueTree.Proofs.Scenario.Replay

/-!
# How a run ends

A run of a case in a directory ends with a record, with a question for which no answer is left, or
with answers that are left at the end. Each of these says to which stop the conversation has come,
and what it has passed on the way: no end, and one question for each answer that it has taken.

Results:
* `Scenario.run_eq_iff`: a run in a directory concludes at the stop that the conversation meets.
* `Scenario.run_eq_ok`, `Scenario.run_eq_missing`, `Scenario.run_eq_unused`: what each conclusion
  says about the conversation, together `Scenario.run_concludes`.
-/

namespace DialogueTree

namespace Scenario

/-- In a directory the conversation of a case passes events, and shows a stop with some of the
answers left. -/
def Meets (t : FileTree) (dir : Path) (c : TestCase) (passed : List Event) (stop : Stop)
    (rest : List Nat) : Prop :=
  ∃ l report s stops, (t.exec (library dir)).1 = .ok l ∧
    l.start c.tree c.start = (.ok report, s) ∧ s.ComesTo true c.choices stops stop rest ∧
      stops.map .ofStop = passed

variable {t : FileTree} {dir : Path} {c : TestCase} {passed : List Event} {stop : Stop}
  {rest : List Nat}

theorem not_concludes_ofFiles (e : TreeFilesError) : ¬Concludes (.error (.ofFiles e)) := by
  cases e <;> exact not_false

/-- A directory that makes up no library is another failure. -/
theorem not_concludes_library {e : ScenarioError} (h : (t.exec (library dir)).1 = .error e) :
    ¬Concludes (.error e) := by
  rw [library_fst] at h
  cases htrees : t.trees dir with
  | error e' =>
    rw [htrees] at h
    cases h
    exact not_concludes_ofFiles e'
  | ok trees =>
    rw [htrees, Outcome.mapError_ok, Outcome.bind_ok] at h
    cases hglobals : t.globals dir with
    | error e' =>
      rw [hglobals] at h
      cases h
      exact not_concludes_ofFiles e'
    | ok store =>
      rw [hglobals, Outcome.mapError_ok, Outcome.bind_ok] at h
      cases hsources : Library.ofSources trees store with
      | error e' =>
        rw [hsources] at h
        cases h
        exact not_false
      | ok l =>
        rw [hsources] at h
        cases h

theorem run_eq_iff {x : Except ScenarioError RunReport} (hx : Concludes x) :
    (t.exec (run dir c)).1 = x ↔ ∃ passed stop rest, Meets t dir c passed stop rest ∧
      passed.length < Progress.stepLimit ∧ Verdict passed stop.output rest x := by
  rw [run_fst]
  cases hlibrary : (t.exec (library dir)).1 with
  | error e =>
    rw [Outcome.bind_error]
    constructor
    · rintro rfl
      exact absurd hx (not_concludes_library hlibrary)
    · rintro ⟨_, _, _, ⟨_, _, _, _, hl, -⟩, -⟩
      rw [hlibrary] at hl
      cases hl
  | ok l =>
    rw [Outcome.bind_ok, TestCase.run_eq_iff hx]
    constructor
    · rintro ⟨report, s, stops, stop, rest, hstart, hcomes, hlength, hverdict⟩
      exact ⟨_, stop, rest, ⟨l, report, s, stops, hlibrary, hstart, hcomes, rfl⟩,
        List.length_map (f := Event.ofStop) ▸ hlength, hverdict⟩
    · rintro ⟨_, stop, rest, ⟨l', report, s, stops, hl, hstart, hcomes, rfl⟩, hlength, hverdict⟩
      obtain rfl := Except.ok.inj (hlibrary.symm.trans hl)
      exact ⟨report, s, stops, stop, rest, hstart, hcomes,
        List.length_map (f := Event.ofStop) ▸ hlength, hverdict⟩

theorem Meets.finish_notMem (h : Meets t dir c passed stop rest) : .finish ∉ passed := by
  obtain ⟨_, _, _, _, -, -, hcomes, rfl⟩ := h
  exact hcomes.finish_notMem

theorem Meets.length_choices (h : Meets t dir c passed stop rest) :
    passed.countP (·.isBranch) + rest.length = c.choices.length := by
  obtain ⟨_, _, _, _, -, -, hcomes, rfl⟩ := h
  exact hcomes.length_choices

/-- A record holds what was passed and the end. -/
theorem run_eq_ok {r : RunReport} : (t.exec (run dir c)).1 = .ok r ↔ ∃ passed stop,
    Meets t dir c passed stop [] ∧ stop.output = .finish ∧ .finish ∉ passed ∧
    r.events = passed ++ [.finish] ∧ r.steps = r.events.length ∧ r.steps ≤ 1000 ∧
    r.consumed = r.events.countP (·.isBranch) ∧ r.consumed = c.choices.length := by
  have hconcludes : Concludes (.ok r) := trivial
  rw [run_eq_iff hconcludes]
  have hcount (passed : List Event) : (passed ++ [Event.finish]).countP (·.isBranch) =
      passed.countP (·.isBranch) := by
    rw [List.countP_append, List.countP_singleton, if_neg (by exact Bool.false_ne_true)]
    rfl
  constructor
  · rintro ⟨passed, ⟨speaker, output⟩, rest, hmeets, hlength, hverdict⟩
    cases hverdict
    have hevents : passed.length + 1 = (passed ++ [Event.finish]).length := by
      rw [List.length_append, List.length_singleton]
    exact ⟨passed, _, hmeets, rfl, hmeets.finish_notMem, rfl, hevents, hlength,
      (hcount passed).symm, hmeets.length_choices⟩
  · rintro ⟨passed, ⟨speaker, output⟩, hmeets, rfl, -, hevents, hsteps, hlimit, hconsumed, -⟩
    obtain ⟨events, consumed, steps⟩ := r
    dsimp only at hevents hsteps hlimit hconsumed
    subst hevents hsteps hconsumed
    rw [List.length_append] at hlimit
    rw [hcount, List.length_append]
    exact ⟨passed, _, [], hmeets, hlimit, .record⟩

/-- If an answer is missing, all have been used on the way to the question. -/
theorem run_eq_missing {e : Nat} : (t.exec (run dir c)).1 = .error (.missingChoice e) ↔
    ∃ passed stop question answers, Meets t dir c passed stop [] ∧
    stop.output = .branch question answers ∧ .finish ∉ passed ∧
    passed.length = e ∧ e < 1000 ∧ passed.countP (·.isBranch) = c.choices.length := by
  have hconcludes : Concludes (.error (.missingChoice e)) := trivial
  rw [run_eq_iff hconcludes]
  constructor
  · rintro ⟨passed, ⟨speaker, output⟩, rest, hmeets, hlength, hverdict⟩
    cases hverdict with
    | missing question answers =>
      exact ⟨passed, _, question, answers, hmeets, rfl, hmeets.finish_notMem, rfl, hlength,
        hmeets.length_choices⟩
  · rintro ⟨passed, ⟨speaker, output⟩, question, answers, hmeets, rfl, -, rfl, hlength, -⟩
    exact ⟨passed, _, [], hmeets, hlength, .missing question answers⟩

/-- If answers are left, the end was shown, and those that were used answered the questions on the
way. -/
theorem run_eq_unused {used total : Nat} :
    (t.exec (run dir c)).1 = .error (.unusedChoices used total) ↔
    ∃ passed stop rest, Meets t dir c passed stop rest ∧ stop.output = .finish ∧
    .finish ∉ passed ∧ passed.length < 1000 ∧ passed.countP (·.isBranch) = used ∧
    used + rest.length = total ∧ total = c.choices.length ∧ used < total := by
  have hconcludes : Concludes (.error (.unusedChoices used total)) := trivial
  rw [run_eq_iff hconcludes]
  constructor
  · rintro ⟨passed, ⟨speaker, output⟩, rest, hmeets, hlength, hverdict⟩
    cases hverdict with
    | unused choice rest =>
      exact ⟨passed, _, _, hmeets, rfl, hmeets.finish_notMem, hlength, rfl, rfl,
        hmeets.length_choices, Nat.lt_add_of_pos_right (Nat.succ_pos _)⟩
  · rintro ⟨passed, ⟨speaker, output⟩, rest, hmeets, rfl, -, hlength, rfl, rfl, -, hlt⟩
    cases rest with
    | nil => exact absurd hlt (Nat.lt_irrefl _)
    | cons choice rest => exact ⟨passed, _, _, hmeets, hlength, .unused choice rest⟩

/-- What each conclusion of a run says about the conversation: a record is what was passed and the
end, a missing answer is one to a question that the conversation came to, and answers that are left
are left at the end. -/
theorem run_concludes (t : FileTree) (dir : Path) (c : TestCase) :
    (∀ r, (t.exec (run dir c)).1 = .ok r ↔ ∃ passed stop,
      Meets t dir c passed stop [] ∧ stop.output = .finish ∧ .finish ∉ passed ∧
      r.events = passed ++ [.finish] ∧ r.steps = r.events.length ∧ r.steps ≤ 1000 ∧
      r.consumed = r.events.countP (·.isBranch) ∧ r.consumed = c.choices.length) ∧
    (∀ e, (t.exec (run dir c)).1 = .error (.missingChoice e) ↔
      ∃ passed stop question answers, Meets t dir c passed stop [] ∧
      stop.output = .branch question answers ∧ .finish ∉ passed ∧
      passed.length = e ∧ e < 1000 ∧ passed.countP (·.isBranch) = c.choices.length) ∧
    (∀ used total, (t.exec (run dir c)).1 = .error (.unusedChoices used total) ↔
      ∃ passed stop rest, Meets t dir c passed stop rest ∧ stop.output = .finish ∧
      .finish ∉ passed ∧ passed.length < 1000 ∧ passed.countP (·.isBranch) = used ∧
      used + rest.length = total ∧ total = c.choices.length ∧ used < total) :=
  ⟨fun _ => run_eq_ok, fun _ => run_eq_missing, fun _ _ => run_eq_unused⟩

end Scenario

end DialogueTree
