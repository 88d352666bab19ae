import DialogueTree.Proofs.Document.Arrangement
import DialogueTree.Proofs.Reader.Question
import DialogueTree.Proofs.Reader.Soundness

/-!
# Answers that can be taken

The answers to a question are listed from the links into it, and taken by the links out of it. Both
lists are the author's, and all that relates them are the numbers of the slots. So an answer that
is listed can be taken exactly if something is wired to the exit slot with its index; that a
document has no issues does not ensure this.

Results:
* `Document.perm_answerLinks`, `Document.pairwise_answerLinks`: what a question lists.
* `Session.choose_untaken_iff`: which answers cannot be taken.
* `Session.answers_taken`: both together.
-/

namespace DialogueTree

/-! ## Answers that are not found -/

/-- Whether an error says that there is no exit for an answer. -/
def ReaderError.IsUntaken : ReaderError → Prop
  | choiceNotFound .. => True
  | _ => False

theorem ReaderError.isUntaken_iff {e : ReaderError} :
    e.IsUntaken ↔ e.report.code = "READER_CHOICE_NOT_FOUND" := by
  cases e <;> simp [IsUntaken, report]

theorem Scene.Unsolved.not_isUntaken {d : Document} {n : Node} {e : ReaderError}
    (h : Scene.Unsolved d n e) : ¬e.IsUntaken := by
  cases h <;> exact id

theorem Document.Fails.not_isUntaken {d : Document} {s after : Scene} {i : Nat} {n : Node}
    {e : ReaderError} (h : d.Fails s i n after e) : ¬e.IsUntaken := by
  cases h with
  | solve _ he => exact (Scene.unsolved_of_solve he).not_isUntaken
  | _ => exact id

/-- A walk has nothing to do with answers. -/
theorem Pass.not_isUntaken {w : Pass} {e : ReaderError} (h : w.result = .error e) :
    ¬e.IsUntaken := by
  rcases w.result_eq_error h with ⟨v, after, -, hvisit⟩ | rfl
  · rcases Document.visit_eq_error hvisit with ⟨-, rfl, -⟩ | ⟨n, -, hfails⟩
    · exact id
    · exact hfails.not_isUntaken
  · exact id

/-! ## Answers that are listed -/

namespace Document

variable {d : Document} {n : Node} {cursor : Nat}

theorem perm_answerLinks (n : Node) :
    (answerLinks n).Perm (n.inputs.filter (0 < ·.slot)) :=
  List.mergeSort_perm ..

theorem pairwise_answerLinks (n : Node) : (answerLinks n).Pairwise (·.slot ≤ ·.slot) :=
  Link.pairwise_mergeSort _

/-- An answer leads where its exit does. -/
theorem answered_of_exit (hn : d.node? cursor = some n) (hb : n.isBranch = true)
    {choice first : Nat} (hout : n.outputAt? choice = some first) :
    d.answered cursor choice = .ok first := by
  unfold answered
  rw [nodeAt_eq_ok.mpr hn, Outcome.bind_ok, if_pos hb, hout]
  rfl

theorem answered_of_no_exit (hn : d.node? cursor = some n) (hb : n.isBranch = true)
    {choice : Nat} (hout : n.outputAt? choice = none) :
    d.answered cursor choice = .error (.choiceNotFound cursor choice) := by
  unfold answered
  rw [nodeAt_eq_ok.mpr hn, Outcome.bind_ok, if_pos hb, hout]
  rfl

end Document

namespace Session

variable {s : Session} {p : Place} {t : Tree} {n : Node}

theorem output_of_branch (hl : s.loaded? = some (p, t))
    (hn : t.document.node? p.cursor = some n) (hb : n.isBranch = true) :
    let expand := Template.expand (s.setting t)
    s.output = .ok (.branch (expand (t.document.questionText n))
      ((Document.answerLinks n).map fun link =>
        ⟨link.slot - 1, expand (t.document.lineText link.node)⟩)) := by
  simp only [output, hl]
  exact Document.output_of_branch hn hb _

/-- An answer is not found exactly if nothing is wired to its exit. -/
theorem choose_untaken_iff (hl : s.loaded? = some (p, t))
    (hn : t.document.node? p.cursor = some n) (hb : n.isBranch = true) (choice : Nat) :
    (∃ e, (s.choose choice).1 = .error e ∧ e.report.code = "READER_CHOICE_NOT_FOUND") ↔
      n.outputAt? choice = none := by
  simp only [← ReaderError.isUntaken_iff]
  constructor
  · rintro ⟨e, he, huntaken⟩
    cases hout : n.outputAt? choice with
    | none => rfl
    | some first =>
      have hanswered := Document.answered_of_exit hn hb hout
      have hchoose : s.choose choice = s.settle p t first := by simp only [choose, hl, hanswered]
      rw [hchoose, ← result_of_settle (w := ⟨_, first⟩) hl rfl] at he
      exact absurd huntaken (Pass.not_isUntaken he)
  · intro hout
    have hanswered := Document.answered_of_no_exit hn hb hout
    exact ⟨.choiceNotFound p.cursor choice, by simp only [choose, hl, hanswered], trivial⟩

/-- A reader that rests on a question lists one answer for each link into it but those that carry
its text, in ascending order. An answer is not found exactly if nothing is wired to the exit slot
with its index, so all answers that are listed can be taken if and only if each of these links has
its counterpart among the exits. -/
theorem answers_taken (hl : s.loaded? = some (p, t)) (hn : t.document.node? p.cursor = some n)
    (hb : n.isBranch = true) :
    ∃ question answers, s.output = .ok (.branch question answers) ∧
      (answers.map (·.index)).Pairwise (· ≤ ·) ∧
      answers.Perm ((n.inputs.filter (0 < ·.slot)).map fun link =>
        ⟨link.slot - 1, Template.expand (s.setting t) (t.document.lineText link.node)⟩) ∧
      (∀ choice, (∃ e, (s.choose choice).1 = .error e ∧
        e.report.code = "READER_CHOICE_NOT_FOUND") ↔ n.outputAt? choice = none) ∧
      ((∀ answer ∈ answers, ∀ e, (s.choose answer.index).1 = .error e →
          e.report.code ≠ "READER_CHOICE_NOT_FOUND") ↔
        ∀ link ∈ n.inputs, 0 < link.slot → n.outputAt? (link.slot - 1) ≠ none) := by
  have huntaken := choose_untaken_iff hl hn hb
  refine ⟨_, _, output_of_branch hl hn hb, ?_, (Document.perm_answerLinks n).map _, huntaken, ?_⟩
  · rw [List.map_map, List.pairwise_map]
    exact (Document.pairwise_answerLinks n).imp fun h => Nat.sub_le_sub_right h 1
  · constructor
    · intro h link hlink hslot hexit
      obtain ⟨e, he, hcode⟩ := (huntaken _).mpr hexit
      have hlisted := (Document.perm_answerLinks n).mem_iff.mpr
        (List.mem_filter.mpr ⟨hlink, decide_eq_true hslot⟩)
      exact h _ (List.mem_map_of_mem hlisted) e he hcode
    · intro h answer hanswer e he hcode
      obtain ⟨link, hlisted, rfl⟩ := List.mem_map.mp hanswer
      obtain ⟨hlink, hslot⟩ := List.mem_filter.mp ((Document.perm_answerLinks n).mem_iff.mp hlisted)
      exact h link hlink (of_decide_eq_true hslot) ((huntaken _).mp ⟨e, he, hcode⟩)

end Session

/-! ## An answer without an exit -/

/-- A question with two answers, of which only the first one leads anywhere. -/
def Node.junction : Node := ⟨5, .branch 3 2, [⟨2, 0⟩, ⟨4, 2⟩, ⟨3, 1⟩], [⟨6, 0⟩]⟩

/-- A valid tree with that question. -/
def Document.junction : Document :=
  { name := "junction"
    nodes :=
      [⟨0, .info { name := "Guide" }, [], []⟩,
        ⟨1, .start 0, [], [⟨2, 0⟩]⟩,
        ⟨2, .dialogue "Which way?" none, [⟨1, 0⟩], [⟨5, 0⟩]⟩,
        ⟨3, .dialogue "Left" none, [], [⟨5, 0⟩]⟩,
        ⟨4, .dialogue "Right" none, [], [⟨5, 0⟩]⟩,
        .junction,
        ⟨6, .finish, [⟨5, 0⟩], []⟩] }

namespace Session

/-- A reader that rests on the question. -/
def undecided : Session := (load ⟨⟨[.ofDocument .junction], {}⟩, {}⟩ 0 none).2

theorem undecided_loaded : undecided.loaded? = some (⟨0, 5, none⟩, .ofDocument .junction) := by
  decide

/-- Both answers are listed in order. The first one can be taken, the second one cannot. -/
theorem undecided_answers :
    undecided.loaded? = some (⟨0, 5, none⟩, .ofDocument .junction) ∧
    Document.junction.node? 5 = some .junction ∧ Node.junction.isBranch = true ∧
    ∃ question answers, undecided.output = .ok (.branch question answers) ∧
      answers.map (·.index) = [0, 1] ∧ (undecided.choose 0).1 = .ok .finish ∧
      ∃ e, (undecided.choose 1).1 = .error e ∧ e.report.code = "READER_CHOICE_NOT_FOUND" := by
  refine ⟨undecided_loaded, rfl, rfl, ?_⟩
  obtain ⟨question, answers, hout, hascending, hperm, huntaken, -⟩ :=
    answers_taken undecided_loaded (n := .junction) rfl rfl
  have hindices : (answers.map (·.index)).Perm [0, 1] := by
    have hswap := hperm.map (·.index)
    rw [List.map_map] at hswap
    exact hswap.trans (.swap 0 1 [])
  exact ⟨question, answers, hout, hindices.eq_of_pairwise' hascending (by decide), by decide,
    (huntaken 1).mpr rfl⟩

/-- The tree has no issues, and its reader lists an answer that cannot be taken. -/
theorem undecided_stuck :
    ¬∀ (s : Session) (p : Place) (t : Tree), s.Reachable → s.loaded? = some (p, t) →
      t.document.issues = [] → t.document.isBranch p.cursor = true →
      ∀ question answers, s.output = .ok (.branch question answers) → ∀ answer ∈ answers, ∀ e,
        (s.choose answer.index).1 = .error e → e.report.code ≠ "READER_CHOICE_NOT_FOUND" := by
  intro h
  have hreachable : undecided.Reachable :=
    .act (.load 0 none) (.new ⟨[.ofDocument .junction], {}⟩)
  have hlisted : ⟨4, 2⟩ ∈ Document.answerLinks .junction :=
    (Document.perm_answerLinks .junction).mem_iff.mpr (by decide)
  have hstuck : (undecided.choose 1).1 = .error (.choiceNotFound 5 1) := by decide
  exact h undecided _ _ hreachable undecided_loaded (by decide) (by decide) _ _
    (output_of_branch undecided_loaded (n := .junction) rfl rfl) _ (List.mem_map_of_mem hlisted) _
    hstuck rfl

end Session

end DialogueTree
