import DialogueTree.Proofs.Reader.Standing

/-!
# Resumption

A snapshot holds all that a conversation depends on but the document, so a reader that takes it in
over the same document goes on like the one it was taken of. That it is taken in at all rests on
the invariant of reachable readers: their cursor is a place of rest. A snapshot from anywhere else
is taken in as a whole or refused, and then nothing has happened; the reader may be idle before, or
rest in any tree.

Results:
* `Session.resume_snapshot`: the conversation of a resumed snapshot.
* `Session.Reachable.resumes`: nothing is lost, over calls of any number.
* `Session.refusal?_eq_none`: which snapshots a tree takes in.
* `Session.resume_exact`: what resuming any snapshot does.
-/

namespace DialogueTree

/-- In the known form, a snapshot of a tree is that of the conversation that it describes. -/
theorem Conversation.snapshot_ofSnapshot {d : Document} {snap : Snapshot}
    (hschema : snap.schema = snapshotSchema) (hname : snap.tree = d.name) :
    (ofSnapshot d snap).snapshot = snap := by
  obtain ⟨schema, tree, cursor, start, speaker, pending, changed, locals, globals⟩ := snap
  cases hschema
  cases hname
  rfl

namespace Session

variable {s s' : Session} {c : Conversation} {t : Tree}

/-- A tree takes in the snapshots in the known form, of a tree with its name, whose cursor is a
line, a question or an end of its document. -/
theorem refusal?_eq_none {snap : Snapshot} :
    refusal? t snap = none ↔ snap.schema = snapshotSchema ∧ snap.tree = t.name ∧
      ∃ n, t.document.node? snap.cursor = some n ∧
        (n.type = .dialogue ∨ n.type = .branch ∨ n.type = .finish) := by
  constructor
  · intro h
    obtain ⟨type, htype, hstop⟩ := isStop_of_refusal? h
    obtain ⟨n, hn, rfl⟩ := Document.nodeType?_eq_some.mp htype
    unfold refusal? at h
    split at h
    next => cases h
    next hschema =>
      split at h
      next => cases h
      next hname =>
        exact ⟨Decidable.of_not_not hschema, (Decidable.of_not_not hname).symm, n, hn,
          NodeType.isStop_iff.mp hstop⟩
  · rintro ⟨hschema, hname, n, hn, hstop⟩
    have hany : (t.document.nodeType? snap.cursor).any (·.isStop) = true := by
      rw [Document.nodeType?_eq_some.mpr ⟨n, hn, rfl⟩]
      exact NodeType.isStop_iff.mpr hstop
    unfold refusal?
    rw [if_neg fun h => h hschema, if_neg fun h => h hname.symm, if_pos hany]

/-- A tree does not refuse the snapshot of a conversation at rest in its document. -/
theorem refusal?_snapshot (hdoc : t.document = c.document) (hrest : c.AtRest) :
    refusal? t c.snapshot = none := by
  obtain ⟨type, htype, hstop⟩ := hrest
  obtain ⟨n, hn, rfl⟩ := Document.nodeType?_eq_some.mp htype
  refine refusal?_eq_none.mpr ⟨rfl, (congrArg Document.name hdoc).symm, n, ?_,
    NodeType.isStop_iff.mp hstop⟩
  rw [hdoc]
  exact hn

/-- Whatever a reader was doing, a snapshot puts it into the conversation that it was taken of. -/
theorem resume_snapshot {i : Nat} (ht : s'.library.tree? i = some t)
    (hdoc : t.document = c.document) (hrest : c.AtRest) :
    (s'.resume i c.snapshot).1 = .ok () ∧ (s'.resume i c.snapshot).2.conversation? = some c := by
  obtain ⟨hok, hc⟩ := resume_conversation ht (refusal?_snapshot hdoc hrest)
  rw [hdoc, Conversation.ofSnapshot_snapshot] at hc
  exact ⟨hok, hc⟩

/-- A snapshot of a reader resumes wherever there is a tree of the same document, and both readers
answer all calls alike from then on. -/
theorem Reachable.resumes (h : s.Reachable) {p : Place} (hl : s.loaded? = some (p, t)) {i : Nat}
    {t' : Tree} (ht : s'.library.tree? i = some t') (hdoc : t'.document = t.document) :
    ∃ snap, s.snapshot = .ok snap ∧ (s'.resume i snap).1 = .ok () ∧
      ∀ calls, (s'.resume i snap).2.replies calls = s.replies calls := by
  have hc := conversation?_of_loaded? hl
  obtain ⟨hok, hc'⟩ := resume_snapshot ht hdoc (h.settled.atRest hc)
  exact ⟨_, snapshot_conversation hc, hok, replies_eq hc' hc⟩

/-- A reader that has counted its own visit and said goodbye takes up the line of the guest, with
Ann to return. -/
theorem Reachable.counted_resumes :
    counted.advance.2.reader.place = some ⟨0, 6, none⟩ ∧
    ∃ snap, counted.snapshot = .ok snap ∧ snap.pending = some { name := "Ann" } ∧
      snap.speakerChanged = true ∧ snap.locals.get? "visits" .int = some (.int 1) ∧
      (counted.advance.2.resume 0 snap).1 = .ok () ∧
      ∀ calls, (counted.advance.2.resume 0 snap).2.replies calls = counted.replies calls := by
  obtain ⟨t, hl, hdoc⟩ : ∃ t, counted.loaded? = some (⟨0, 4, some { name := "Ann" }⟩, t) ∧
      t.document = .counted := ⟨_, rfl, rfl⟩
  obtain ⟨t', ht', hdoc'⟩ : ∃ t', counted.advance.2.library.tree? 0 = some t' ∧
      t'.document = .counted := ⟨_, rfl, rfl⟩
  obtain ⟨snap, hsnap, hok, hreplies⟩ := resumes counted_reachable hl ht' (hdoc'.trans hdoc.symm)
  have hstate : counted.snapshot.toOption.map (fun snap =>
      (snap.pending, snap.speakerChanged, snap.locals.get? "visits" .int)) =
        some (some { name := "Ann" }, true, some (.int 1)) := by decide +kernel
  rw [hsnap, Outcome.toOption_ok, Option.map_some, Option.some.injEq, Prod.mk.injEq,
    Prod.mk.injEq] at hstate
  exact ⟨by decide, snap, hsnap, hstate.1, hstate.2.1, hstate.2.2, hok, hreplies⟩

/-! ## Any snapshot -/

/-- What a resumed session is: the reader rests where the snapshot says, the tree and the shared
variables are in its state, and in any other tree the speaker who waited to return has done so. -/
structure ResumesAs (s : Session) (i : Nat) (snap : Snapshot) (after : Session) : Prop where
  reader : after.reader = ⟨some ⟨i, snap.cursor, snap.pending⟩, snap.speakerChanged⟩
  tree : after.library.tree? i = (s.library.tree? i).map fun t =>
    ⟨t.document, snap.locals, snap.defaultStart, snap.speaker⟩
  others (j : Nat) : j ≠ i → after.library.tree? j = (s.library.tree? j).map fun t =>
    { t with speaker := (s.reader.pendingIn j).getD t.speaker }
  globals : after.library.globals = snap.globals

/-- A reader that leaves changes no tree but by letting the speaker return. -/
theorem tree?_unload_eq (s : Session) (i : Nat) :
    s.unload.library.tree? i = (s.library.tree? i).map fun t =>
      { t with speaker := (s.reader.pendingIn i).getD t.speaker } := by
  unfold unload Reader.pendingIn
  rcases hplace : s.reader.place with _ | ⟨tree, cursor, _ | speaker⟩
  · simp
  · simp
  · by_cases hi : tree = i
    · simp [hi]
    · simp [Library.tree?_modifyTree, hi]

/-- A snapshot that is not taken in changes nothing. -/
theorem resume_of_error {i : Nat} {snap : Snapshot} {e : ReaderError}
    (h : (s.resume i snap).1 = .error e) : (s.resume i snap).2 = s := by
  cases ht : s.library.tree? i with
  | none => simp only [resume, ht]
  | some t =>
    cases hr : refusal? t snap with
    | some e' => simp only [resume, ht, hr]
    | none => cases (resume_conversation ht hr).1.symm.trans h

theorem resume_eq_error {i : Nat} {snap : Snapshot} (ht : s.library.tree? i = some t) :
    (∃ e, (s.resume i snap).1 = .error e) ↔ refusal? t snap ≠ none := by
  cases h : refusal? t snap with
  | some e => simp [resume, ht, h]
  | none => simp [(resume_conversation ht h).1]

theorem resumesAs_resume {i : Nat} {snap : Snapshot} (ht : s.library.tree? i = some t)
    (h : refusal? t snap = none) : s.ResumesAs i snap (s.resume i snap).2 := by
  simp only [resume, ht, h]
  refine ⟨rfl, ?_, fun j hj => ?_, rfl⟩
  · have htree := s.unload.library.tree?_modifyTree_self i fun t =>
      { t with
        locals := snap.locals
        defaultStart := snap.defaultStart
        speaker := snap.speaker }
    rw [tree?_unload_eq, Option.map_map] at htree
    exact htree
  · rw [tree?_withScene_of_ne _ (Ne.symm hj), tree?_unload_eq]

/-- A snapshot that a tree takes in is what the next one shows. -/
theorem snapshot_resume {i : Nat} {snap : Snapshot} (ht : s.library.tree? i = some t)
    (h : refusal? t snap = none) : (s.resume i snap).2.snapshot = .ok snap := by
  obtain ⟨hschema, hname, -⟩ := refusal?_eq_none.mp h
  rw [snapshot_conversation (resume_conversation ht h).2,
    Conversation.snapshot_ofSnapshot hschema hname]

/-- Resuming is all or nothing. A snapshot is refused exactly if its form is not the known one, if
it is of a tree with another name, or if its cursor is no line, question or end of the document;
then nothing has changed at all. Otherwise the session resumes as the snapshot says, whatever the
reader did before and wherever it rested, and the next snapshot is that very one. -/
theorem resume_exact {i : Nat} (ht : s.library.tree? i = some t) (snap : Snapshot) :
    ((∃ e, (s.resume i snap).1 = .error e) ↔
      snap.schema ≠ snapshotSchema ∨ snap.tree ≠ t.name ∨
      ¬∃ n, t.document.node? snap.cursor = some n ∧
        (n.type = .dialogue ∨ n.type = .branch ∨ n.type = .finish)) ∧
    (∀ e, (s.resume i snap).1 = .error e → (s.resume i snap).2 = s) ∧
    (snap.schema = snapshotSchema → snap.tree = t.name →
      (∃ n, t.document.node? snap.cursor = some n ∧
        (n.type = .dialogue ∨ n.type = .branch ∨ n.type = .finish)) →
      (s.resume i snap).1 = .ok () ∧ s.ResumesAs i snap (s.resume i snap).2 ∧
        (s.resume i snap).2.snapshot = .ok snap) := by
  refine ⟨?_, fun e => resume_of_error, ?_⟩
  · rw [resume_eq_error ht, Ne, refusal?_eq_none, Classical.not_and_iff_not_or_not,
      Classical.not_and_iff_not_or_not]
  · intro hschema hname hcursor
    have hnone := refusal?_eq_none.mpr ⟨hschema, hname, hcursor⟩
    exact ⟨(resume_conversation ht hnone).1, resumesAs_resume ht hnone, snapshot_resume ht hnone⟩

end Session

/-- A tree of one line. -/
def Document.greeting : Document :=
  { name := "greeting"
    nodes :=
      [⟨0, .info { name := "Ann" }, [], []⟩,
        ⟨1, .start 0, [], [⟨2, 0⟩]⟩,
        ⟨2, .dialogue "Hello" none, [⟨1, 0⟩], [⟨3, 0⟩]⟩,
        ⟨3, .finish, [⟨2, 0⟩], []⟩] }

namespace Session

/-- The visited tree and the greeting, and a reader that rests on the line of the guest. -/
def hosting : Session := (load ⟨⟨[.ofDocument .visited, .ofDocument .greeting], {}⟩, {}⟩ 0 none).2

/-- A snapshot of the greeting, with somebody whom no document names. -/
def bookmark : Snapshot where
  schema := snapshotSchema
  tree := "greeting"
  cursor := 2
  defaultStart := 0
  speaker := { name := "Bard" }
  pending := some { name := "Ann" }
  speakerChanged := true
  locals := {}
  globals := ⟨[{ name := "coins" }]⟩

/-- The reader leaves the guest for the greeting, and the host stays behind. The same snapshot is
refused by the tree where the reader rests, and one without a line by the other tree. -/
theorem hosting_resumes :
    (hosting.resume 1 bookmark).1 = .ok () ∧
    (hosting.resume 1 bookmark).2.snapshot = .ok bookmark ∧
    hosting.standing? 0 = some { name := "Host" } ∧
    (hosting.library.tree? 0).map (·.speaker) = some { name := "Guest" } ∧
    ((hosting.resume 1 bookmark).2.library.tree? 0).map (·.speaker) = some { name := "Host" } ∧
    (∃ e, (hosting.resume 0 bookmark).1 = .error e) ∧ (hosting.resume 0 bookmark).2 = hosting := by
  have ht : hosting.library.tree? 1 = some (.ofDocument .greeting) := by decide
  have ht' : hosting.library.tree? 0 =
      some { Tree.ofDocument .visited with speaker := { name := "Guest" } } := by decide
  obtain ⟨-, -, hall⟩ := resume_exact ht bookmark
  obtain ⟨hrefuses, hnothing, -⟩ := resume_exact ht' bookmark
  obtain ⟨hok, hresumes, hsnapshot⟩ := hall rfl rfl ⟨_, rfl, .inl rfl⟩
  obtain ⟨e, he⟩ := hrefuses.mpr (.inr (.inl (by decide)))
  refine ⟨hok, hsnapshot, by decide, by decide, ?_, ⟨e, he⟩, hnothing e he⟩
  rw [hresumes.others 0 (by decide), ht']
  decide

end Session

end DialogueTree
