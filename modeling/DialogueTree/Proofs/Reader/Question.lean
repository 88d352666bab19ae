import DialogueTree.Proofs.Reader.Pass

/-!
# Lines that ask a question

A line whose first exit leads to a question is not shown by itself: the reader rests on the
question, which shows the text of the first line on its entry slot 0. That is the line which was
reached, if the author has wired no other one there. A valid document may have several.

Results:
* `Document.walk_of_mem_visits`: a visit that comes to rest is what comes of the walk.
* `Document.Asks.output_eq`: what a question shows.
* `Session.question_after`: what a reader shows that has reached such a line.
-/

namespace DialogueTree

/-- The text of a question that is shown. -/
def Output.question? : Output → Option String
  | branch question _ => some question
  | _ => none

theorem Node.exists_linkedAt? {links : List Link} {link : Link} (h : link ∈ links) :
    ∃ next, Node.linkedAt? links link.slot = some next := by
  have hfound : (links.find? (·.slot == link.slot)).isSome := by
    rw [List.find?_isSome]
    exact ⟨link, h, beq_self_eq_true link.slot⟩
  obtain ⟨first, hfirst⟩ := Option.isSome_iff_exists.mp hfound
  exact ⟨first.node, by rw [Node.linkedAt?, hfirst]; rfl⟩

namespace Document

variable {d : Document} {s after : Scene} {i question : Nat} {text : String} {b : Node}

/-- Whether a line leads into a question by its first exit, and is wired to the entry slot for the
question's text. -/
structure Asks (d : Document) (i : Nat) (text : String) (question : Nat) (b : Node) : Prop where
  line : ∃ n speaker link, d.node? i = some n ∧ n.content = .dialogue text speaker ∧
    n.outputs.head? = some link ∧ link.node = question
  node : d.node? question = some b
  isBranch : b.isBranch = true
  wired : ⟨i, 0⟩ ∈ b.inputs

/-- A reader that reaches the line rests on the question. -/
theorem Asks.visit_eq (h : d.Asks i text question b) (s : Scene) :
    ∃ after, d.visit s i = (.ok (.rest ⟨question, .branch⟩), after) := by
  obtain ⟨n, speaker, link, hn, hc, hout, rfl⟩ := h.line
  have hbranch : d.isBranch link.node = true :=
    isBranch_iff.mpr (nodeType?_eq_some.mpr ⟨b, h.node, by simpa [Node.isBranch] using h.isBranch⟩)
  have hline : n.isBranch = false := by simp [Node.isBranch, Node.type, hc, Content.type]
  obtain ⟨rest, hrest⟩ := List.head?_eq_some_iff.mp hout
  have hat : d.restAt n i = ⟨link.node, .branch⟩ := by simp [restAt, hline, hrest, hbranch]
  exact ⟨_, by rw [visit_of_node? hn, enter, hc, hat]⟩

theorem Asks.lineText_eq (h : d.Asks i text question b) : d.lineText i = text := by
  obtain ⟨⟨index, content, inputs, outputs⟩, speaker, link, hn, hc, -⟩ := h.line
  obtain rfl : content = .dialogue text speaker := hc
  simp [lineText, hn]

/-- A question shows its text, and its answers by the slots of the links that carry them. -/
theorem output_of_branch (hb : d.node? question = some b) (hbranch : b.isBranch = true)
    (expand : String → String) :
    d.output expand question = .ok (.branch (expand (d.questionText b))
      ((answerLinks b).map fun link => ⟨link.slot - 1, expand (d.lineText link.node)⟩)) := by
  unfold output
  rw [nodeAt_eq_ok.mpr hb, Outcome.bind_ok]
  cases hc : b.content with
  | branch => rfl
  | _ => simp [Node.isBranch, Node.type, hc, Content.type] at hbranch

/-- A question shows the text of the first line that is wired to its entry slot 0. -/
theorem Asks.output_eq (h : d.Asks i text question b) (expand : String → String) :
    ∃ source, b.inputAt? 0 = some source ∧
      d.output expand question = .ok (.branch (expand (d.lineText source))
        ((answerLinks b).map fun link => ⟨link.slot - 1, expand (d.lineText link.node)⟩)) := by
  obtain ⟨source, hsource⟩ : ∃ source, b.inputAt? 0 = some source :=
    Node.exists_linkedAt? h.wired
  refine ⟨source, hsource, ?_⟩
  rw [output_of_branch h.node h.isBranch, questionText, hsource]

/-- A visit that comes to rest is what comes of the walk. -/
theorem walk_of_mem_visits {cursor hops : Nat} {v : Visit} {r : Rest}
    (hv : v ∈ d.visits hops s i) (hrest : d.visit v.scene v.position = (.ok (.rest r), after)) :
    d.walk cursor hops s i = (.ok r, after) := by
  induction hops generalizing s i with
  | zero => simp [visits] at hv
  | succ hops ih =>
    rw [visits] at hv
    rcases List.mem_cons.mp hv with rfl | hlater
    · rw [walk, hrest]
    · split at hlater
      next next mid hvisit =>
        rw [walk, hvisit]
        exact ih hlater
      next => cases hlater

end Document

theorem Pass.first_mem_visits (w : Pass) : ⟨w.conversation.scene, w.first⟩ ∈ w.visits := by
  show _ ∈ w.document.visits (99 + 1) _ _
  rw [Document.visits]
  exact List.mem_cons_self

namespace Session

variable {s : Session} {a : Action} {w : Pass} {v : Document.Visit} {text : String}
  {question : Nat} {b : Node}

/-- A reader that reaches a line which leads into a question, rests on the question. It shows the
text of the first line that is wired to the question's entry slot 0, expanded in the state that the
walk has led to. That is the text of the line which was reached, if no other line is wired there. -/
theorem question_after (hpass : s.pass? a = some w) (hv : v ∈ w.visits)
    (h : w.document.Asks v.position text question b) :
    let after := (a.run s).2
    (a.run s).1.result? = some (.ok .branch) ∧ after.cursor? = some question ∧
    ∃ source asked answers, b.inputAt? 0 = some source ∧
      after.expand (w.document.lineText source) = .ok asked ∧
      after.output = .ok (.branch asked answers) ∧
      (source = v.position → after.expand text = .ok asked) ∧
      ((∀ link ∈ b.inputs, link.slot = 0 → link.node = v.position) → source = v.position) := by
  obtain ⟨scene, hvisit⟩ := h.visit_eq v.scene
  have hsettle : w.document.settle w.conversation.cursor w.conversation.scene w.first =
      (.ok ⟨question, .branch⟩, scene) :=
    Document.settle_eq_ok.mpr (Document.walk_of_mem_visits hv hvisit)
  have hfollow : w.conversation.follow (.ok w.first) =
      (.ok .branch, ⟨w.document, question, scene⟩) := by
    unfold Conversation.follow
    dsimp only
    rw [show w.conversation.document = w.document from rfl, hsettle]
  have hresult : w.result = .ok .branch := congrArg Prod.fst hfollow
  have hconversation : (a.run s).2.conversation? = some ⟨w.document, question, scene⟩ := by
    rw [conversation?_run hpass hresult, hfollow]
  intro after
  obtain ⟨p, t, hl, hat⟩ := conversation?_eq_some.mp hconversation
  have hcursor : after.cursor? = some question := by
    rw [cursor?, hl, Option.map_some]
    exact congrArg (some ·.cursor) hat.symm
  obtain ⟨source, hsource, hout⟩ :=
    h.output_eq (Conversation.expand ⟨w.document, question, scene⟩)
  refine ⟨by rw [result?_run hpass, hresult], hcursor, source, _, _, hsource,
    expand_conversation hconversation _, (output_conversation hconversation).trans hout, ?_, ?_⟩
  · rintro rfl
    rw [h.lineText_eq]
    exact expand_conversation hconversation text
  · intro honly
    obtain ⟨link, hlink, hslot, rfl⟩ := Node.exists_of_linkedAt? hsource
    exact honly link hlink hslot

end Session

/-! ## Two lines to one question -/

/-- A question into which two lines lead. -/
def Node.offer : Node :=
  ⟨5, .branch 3 2, [⟨3, 0⟩, ⟨4, 0⟩, ⟨6, 1⟩, ⟨7, 2⟩], [⟨8, 0⟩, ⟨8, 1⟩]⟩

/-- A valid tree with that question, one of its lines behind each way in. -/
def Document.offer : Document :=
  { name := "offer"
    nodes :=
      [⟨0, .info { name := "Host" }, [], []⟩,
        ⟨1, .start 0, [], [⟨3, 0⟩]⟩,
        ⟨2, .start 1, [], [⟨4, 0⟩]⟩,
        ⟨3, .dialogue "Hungry?" none, [⟨1, 0⟩], [⟨5, 0⟩]⟩,
        ⟨4, .dialogue "Thirsty?" none, [⟨2, 0⟩], [⟨5, 0⟩]⟩,
        .offer,
        ⟨6, .dialogue "Yes" none, [], [⟨5, 1⟩]⟩,
        ⟨7, .dialogue "No" none, [], [⟨5, 2⟩]⟩,
        ⟨8, .finish, [⟨5, 0⟩, ⟨5, 1⟩], []⟩] }

theorem Document.offer_asks :
    offer.Asks 3 "Hungry?" 5 .offer ∧ offer.Asks 4 "Thirsty?" 5 .offer :=
  ⟨⟨⟨_, none, _, rfl, rfl, rfl, rfl⟩, rfl, rfl, by decide⟩,
    ⟨⟨_, none, _, rfl, rfl, rfl, rfl⟩, rfl, rfl, by decide⟩⟩

namespace Session

/-- An idle reader of that tree. -/
def offered : Session := ⟨⟨[.ofDocument .offer], {}⟩, {}⟩

/-- By the first way in, the text of the line that is reached is the one that is shown. -/
theorem offered_first_question :
    ∃ w, offered.pass? (.load 0 none) = some w ∧ w.document.Asks w.first "Hungry?" 5 .offer ∧
      ∃ asked answers, (offered.load 0 none).2.output = .ok (.branch asked answers) ∧
        (offered.load 0 none).2.expand "Hungry?" = .ok asked := by
  obtain ⟨w, hpass, hdocument, hfirst⟩ : ∃ w, offered.pass? (.load 0 none) = some w ∧
      w.document = .offer ∧ w.first = 3 := ⟨_, rfl, rfl, rfl⟩
  have hasks : w.document.Asks w.first "Hungry?" 5 .offer := by
    rw [hdocument, hfirst]
    exact Document.offer_asks.1
  obtain ⟨-, -, source, asked, answers, hsource, -, hout, htext, -⟩ :=
    question_after hpass w.first_mem_visits hasks
  have hreached : source = w.first := by
    rw [hfirst]
    exact (Option.some.inj hsource).symm
  exact ⟨w, hpass, hasks, asked, answers, hout, htext hreached⟩

/-- By the second way in, the text of the line that is reached is not shown. -/
theorem question_swallowed :
    ¬∀ (s : Session) (a : Action) (w : Pass) (v : Document.Visit) (text : String)
      (question : Nat) (b : Node), s.Reachable → w.document.issues = [] → s.pass? a = some w →
      v ∈ w.visits → w.document.Asks v.position text question b →
      ∃ asked answers, (a.run s).2.output = .ok (.branch asked answers) ∧
        (a.run s).2.expand text = .ok asked := by
  intro h
  obtain ⟨w, hpass, hdocument, hfirst⟩ : ∃ w, offered.pass? (.load 0 (some 1)) = some w ∧
      w.document = .offer ∧ w.first = 4 := ⟨_, rfl, rfl, rfl⟩
  have hasks : w.document.Asks w.first "Thirsty?" 5 .offer := by
    rw [hdocument, hfirst]
    exact Document.offer_asks.2
  have hvalid : w.document.issues = [] := by
    rw [hdocument]
    decide
  obtain ⟨asked, answers, hout, htext⟩ := h offered (.load 0 (some 1)) w _ _ _ _ (.new _) hvalid
    hpass w.first_mem_visits hasks
  have hshown : ((Action.load 0 (some 1)).run offered).2.output.toOption.bind (·.question?) =
      some "Hungry?" := by decide +kernel
  have hexpanded : (((Action.load 0 (some 1)).run offered).2.expand "Thirsty?").toOption =
      some "Thirsty?" := by decide +kernel
  rw [hout] at hshown
  rw [htext] at hexpanded
  obtain rfl : asked = "Hungry?" := Option.some.inj hshown
  exact absurd hexpanded (by decide)

end Session

end DialogueTree
