import DialogueTree.Proofs.Reader.Pass
import DialogueTree.Proofs.Reader.Voice

/-!
# The voices of trees

A speaker belongs to a tree, while the one who is to return belongs to the reader that rests there.
An action either leaves all voices alone or takes the reader off its place: then the standing
speaker of its tree returns, perhaps gives way to one who is announced on the walk, and may be
overridden again by the line that is reached. This holds of every tree at once, also of those that
the reader has nothing to do with.

Results:
* `Session.voice?_run_of_stays`, `Session.voice?_run_of_leaves`: the voices after an action.
* `Session.standing?_run`: the standing speakers after an action.
-/

namespace DialogueTree

/-- The speaker whom a reader lets return to a tree. -/
def Reader.pendingIn (r : Reader) (i : Nat) : Option Speaker :=
  r.place.bind fun p => if p.tree = i then p.pending else none

namespace Session

variable {s : Session} {p : Place} {t : Tree} {i : Nat} {v : Voice}

/-- Who speaks in the tree at a position of the library. -/
def voice? (s : Session) (i : Nat) : Option Voice :=
  (s.library.tree? i).map fun t => ⟨t.speaker, s.reader.pendingIn i⟩

/-- The standing speaker of the tree at a position of the library. -/
def standing? (s : Session) (i : Nat) : Option Speaker := (s.voice? i).map (·.standing)

theorem voice?_of_loaded? (h : s.loaded? = some (p, t)) :
    s.voice? p.tree = some (s.scene p t).voice := by
  obtain ⟨hplace, htree⟩ := loaded?_eq_some.mp h
  simp [voice?, htree, Reader.pendingIn, hplace, scene, Scene.voice]

/-- No reader waits to change a tree that it does not rest in. -/
theorem voice?_of_place_ne (hplace : s.reader.place = some p) (hne : p.tree ≠ i) :
    s.voice? i = (s.library.tree? i).map fun t => ⟨t.speaker, none⟩ := by
  simp [voice?, Reader.pendingIn, hplace, hne]

theorem voice?_of_pending_none (hplace : ∀ p, s.reader.place = some p → p.pending = none) :
    s.voice? i = (s.library.tree? i).map fun t => ⟨t.speaker, none⟩ := by
  unfold voice? Reader.pendingIn
  cases h : s.reader.place with
  | none => rfl
  | some p => simp [hplace p h]

theorem voice?_withScene_self (s : Session) (i cursor : Nat) (after : Scene) :
    (s.withScene i cursor after).voice? i = (s.library.tree? i).map fun _ => after.voice := by
  have htree : (s.withScene i cursor after).library.tree? i = (s.library.tree? i).map _ :=
    s.library.tree?_modifyTree_self i _
  unfold voice?
  rw [htree, Option.map_map]
  simp [Function.comp_def, withScene, Reader.pendingIn, Scene.voice]

theorem voice?_withScene_of_ne (s : Session) {tree : Nat} (hne : tree ≠ i) (cursor : Nat)
    (after : Scene) : (s.withScene tree cursor after).voice? i =
      (s.library.tree? i).map fun t => ⟨t.speaker, none⟩ := by
  rw [voice?_of_place_ne (p := ⟨tree, cursor, after.pending⟩) rfl hne,
    s.tree?_withScene_of_ne hne]

/-! ## Leaving and walking -/

/-- A reader that leaves lets the standing speaker return. -/
theorem voice?_unload (s : Session) (i : Nat) :
    s.unload.voice? i = (s.voice? i).map fun v => ⟨v.standing, none⟩ := by
  rw [voice?_of_pending_none (by intro p hp; cases hp)]
  unfold unload voice? Reader.pendingIn Voice.standing
  rcases hplace : s.reader.place with _ | ⟨tree, cursor, _ | speaker⟩
  · simp [Function.comp_def]
  · simp [Function.comp_def]
  · by_cases hi : tree = i
    · simp [hi, Function.comp_def]
    · simp [Library.tree?_modifyTree, hi, Function.comp_def]

/-- A walk that fails changes no voice. -/
theorem voice?_settle_of_error (hl : s.loaded? = some (p, t)) {first : Nat} {e : ReaderError}
    (h : (s.settle p t first).1 = .error e) (i : Nat) :
    (s.settle p t first).2.voice? i = s.voice? i := by
  obtain ⟨hplace, htree⟩ := loaded?_eq_some.mp hl
  unfold settle at *
  split at h
  next => cases h
  next e' after hsettle =>
    dsimp only
    by_cases hi : p.tree = i
    · subst hi
      rw [voice?_withScene_self, htree, voice?_of_loaded? hl]
      exact congrArg some (Document.settle_voice_of_error hsettle)
    · rw [voice?_withScene_of_ne s hi, voice?_of_place_ne hplace hi]

/-- A walk that comes to rest changes the voice of its tree. -/
theorem voice?_settle_self (hl : s.loaded? = some (p, t)) {first : Nat} {type : NodeType}
    (h : (s.settle p t first).1 = .ok type) :
    ∃ v, (s.settle p t first).2.voice? p.tree = some v ∧
      t.document.Sounds ((t.document.announced?
        (t.document.visits hopLimit (s.scene p t) first)).getD (s.scene p t).voice.standing) v := by
  obtain ⟨-, htree⟩ := loaded?_eq_some.mp hl
  unfold settle at *
  split at h
  next r after hsettle =>
    refine ⟨after.voice, ?_, Document.walk_voice (Document.settle_eq_ok.mp hsettle)⟩
    dsimp only
    rw [voice?_withScene_self, htree]
    rfl
  next => cases h

theorem voice?_settle_of_ne (hl : s.loaded? = some (p, t)) (first : Nat) (hne : p.tree ≠ i) :
    (s.settle p t first).2.voice? i = s.voice? i := by
  obtain ⟨hplace, -⟩ := loaded?_eq_some.mp hl
  rw [voice?_of_place_ne hplace hne]
  unfold settle
  split <;> exact voice?_withScene_of_ne s hne _ _

end Session

/-! ## Actions -/

namespace Action

/-- Whether an action names a speaker, or brings one in with a snapshot. -/
def SetsSpeaker : Action → Prop
  | resume .. | call (.changeSpeaker _) => True
  | _ => False

/-- Whether an action takes a reader off the place where it rests. -/
def leaves (s : Session) : Action → Bool
  | load .. | unload => true
  | call .advance => s.advance.1.isOk
  | call (.choose choice) => (s.choose choice).1.isOk
  | _ => false

end Action

namespace Session

variable {s : Session} {p : Place} {t : Tree} {i : Nat} {v : Voice} {w : Pass}

/-- The tree that an action walks in. -/
def ground? (s : Session) : Action → Option Nat
  | .load tree _ => some tree
  | _ => s.reader.place.map (·.tree)

/-- The speaker that an action gives to a tree: the last one that is announced on its walk, if the
walk is through that tree and comes to rest. -/
def announced? (s : Session) (a : Action) (i : Nat) : Option Speaker :=
  (s.pass? a).bind fun w =>
    if s.ground? a = some i ∧ w.result.isOk then w.document.announced? w.visits else none

theorem announced?_of_no_pass {a : Action} (h : s.pass? a = none) (i : Nat) :
    s.announced? a i = none := by
  rw [announced?, h]
  rfl

theorem announced?_of_ok {a : Action} (h : s.pass? a = some w) {ground : Nat}
    (hground : s.ground? a = some ground) {type : NodeType} (hok : w.result = .ok type) (i : Nat) :
    s.announced? a i = if ground = i then w.document.announced? w.visits else none := by
  rw [announced?, h, Option.bind_some, hground, hok]
  simp [Except.isOk, Except.toBool]

theorem announced?_of_ground_ne {a : Action} (hground : s.ground? a ≠ some i) :
    s.announced? a i = none := by
  unfold announced?
  cases s.pass? a with
  | none => rfl
  | some w => exact if_neg fun h => hground h.1

theorem announced?_of_error {a : Action} (h : s.pass? a = some w) {e : ReaderError}
    (he : w.result = .error e) (i : Nat) : s.announced? a i = none := by
  rw [announced?, h, Option.bind_some, he]
  simp [Except.isOk, Except.toBool]

theorem voice?_modifyTree (s : Session) {f : Tree → Tree} (hf : ∀ t, (f t).speaker = t.speaker)
    (i : Nat) : (s.modifyTree f).voice? i = s.voice? i := by
  unfold modifyTree
  split
  next p t _ =>
    unfold voice?
    rw [Library.tree?_modifyTree]
    by_cases hi : p.tree = i
    · simp [hi, Function.comp_def, hf]
    · simp [hi]
  next => rfl

theorem voice?_jump (s : Session) (position i : Nat) :
    (s.jump position).2.voice? i = s.voice? i := by
  unfold jump
  split
  next => rfl
  next p t hl =>
    split
    next =>
      have hplace := (loaded?_eq_some.mp hl).1
      simp [voice?, Reader.pendingIn, hplace]
    next => rfl

theorem voice?_tryLocals (s : Session) (f : Store → Option Store) (i : Nat) :
    (s.tryLocals f).2.voice? i = s.voice? i := by
  unfold tryLocals
  split
  next store _ =>
    exact s.voice?_modifyTree (f := fun t => { t with locals := store }) (fun _ => rfl) i
  next => rfl

/-- After a walk that comes to rest, in its own tree and in all others. -/
theorem sounds_settle (hl : s.loaded? = some (p, t)) {first : Nat} {type : NodeType}
    (hok : (s.settle p t first).1 = .ok type) {u : Tree} (hu : s.library.tree? i = some u)
    (hv : s.voice? i = some v) :
    ∃ after, (s.settle p t first).2.voice? i = some after ∧
      u.document.Sounds ((if p.tree = i then t.document.announced?
        (t.document.visits hopLimit (s.scene p t) first) else none).getD v.standing) after := by
  by_cases hi : p.tree = i
  · subst hi
    obtain rfl : u = t := Option.some.inj (hu.symm.trans (loaded?_eq_some.mp hl).2)
    obtain rfl : v = (s.scene p u).voice :=
      Option.some.inj (hv.symm.trans (voice?_of_loaded? hl))
    rw [if_pos rfl]
    exact voice?_settle_self hl hok
  · have hplain : v = ⟨u.speaker, none⟩ := by
      rw [voice?_of_place_ne (loaded?_eq_some.mp hl).1 hi, hu] at hv
      exact (Option.some.inj hv).symm
    refine ⟨v, (voice?_settle_of_ne hl first hi).trans hv, ?_⟩
    rw [if_neg hi, hplain]
    exact .plain

theorem Follows.voice?_of_error {a : Action} {r : Except ReaderError NodeType × Session}
    (h : s.Follows a r) {e : ReaderError} (hr : r.1 = .error e) (i : Nat) :
    r.2.voice? i = s.voice? i := by
  cases h with
  | stays => rfl
  | walks hl => exact voice?_settle_of_error hl hr i

theorem Follows.sounds_of_ok {a : Action} {r : Except ReaderError NodeType × Session}
    (h : s.Follows a r) {type : NodeType} (hr : r.1 = .ok type)
    (hground : s.ground? a = s.reader.place.map (·.tree)) {u : Tree}
    (hu : s.library.tree? i = some u) (hv : s.voice? i = some v) :
    ∃ after, r.2.voice? i = some after ∧
      u.document.Sounds ((s.announced? a i).getD v.standing) after := by
  cases h with
  | stays => cases hr
  | walks hl hpass hw =>
    rename_i p t w
    have hresult : w.result = .ok type := (result_of_settle hl hw).trans hr
    rw [(loaded?_eq_some.mp hl).1, Option.map_some] at hground
    rw [announced?_of_ok hpass hground hresult]
    have hsounds := sounds_settle hl hr hu hv
    unfold Pass.visits Pass.document
    rw [hw]
    exact hsounds

/-- A tree that a reader has left sounds plain. -/
theorem exists_voice?_unload (hv : s.voice? i = some v) (d : Document) :
    ∃ after, s.unload.voice? i = some after ∧ d.Sounds v.standing after :=
  ⟨_, by rw [voice?_unload, hv]; rfl, .plain⟩

/-- Nobody waits in a tree that has just been entered. -/
theorem voice?_entering (tree startNode : Nat) (hv : s.voice? i = some v) :
    (s.entering tree startNode).voice? i = some ⟨v.standing, none⟩ := by
  have hleft : s.unload.voice? i = some ⟨v.standing, none⟩ := by rw [voice?_unload, hv]; rfl
  rw [voice?_of_pending_none (by intro p hp; cases hp)] at hleft
  rw [voice?_of_pending_none (by intro p hp; cases hp; rfl)]
  exact hleft

theorem Enters.sounds {a : Action} {tree : Nat} {r : Except ReaderError LoadReport × Session}
    (h : s.Enters a tree r) (hground : s.ground? a = some tree) {u : Tree}
    (hu : s.library.tree? i = some u) (hv : s.voice? i = some v) :
    ∃ after, r.2.voice? i = some after ∧
      u.document.Sounds ((s.announced? a i).getD v.standing) after := by
  cases h with
  | stays hpass =>
    rw [announced?_of_no_pass hpass]
    exact exists_voice?_unload hv _
  | rests hl hpass hw hsettle =>
    rename_i startNode t w report after
    have hok : ((s.entering tree startNode).settle _ t w.first).1 = .ok report.resting :=
      congrArg Prod.fst hsettle
    have hresult : w.result = .ok report.resting := (result_of_settle hl hw).trans hok
    obtain ⟨u', hu', hdoc⟩ := s.tree?_unload i hu
    have hsounds := sounds_settle hl hok hu' (voice?_entering tree startNode hv)
    rw [hsettle, hdoc] at hsounds
    rw [announced?_of_ok hpass hground hresult]
    unfold Pass.visits Pass.document
    rw [hw]
    exact hsounds
  | fails hl hpass hw hsettle =>
    rename_i startNode t w e after
    have herror : ((s.entering tree startNode).settle _ t w.first).1 = .error e :=
      congrArg Prod.fst hsettle
    have hresult : w.result = .error e := (result_of_settle hl hw).trans herror
    have hkept := voice?_settle_of_error hl herror i
    rw [hsettle, voice?_entering tree startNode hv] at hkept
    rw [announced?_of_error hpass hresult]
    exact exists_voice?_unload hkept _

/-- An action that does not take the reader off its place leaves all voices alone. -/
theorem voice?_run_of_stays {a : Action} (ha : ¬a.SetsSpeaker) (hstays : a.leaves s = false)
    (i : Nat) : (a.run s).2.voice? i = s.voice? i := by
  cases a with
  | load | unload => cases hstays
  | resume => exact absurd trivial ha
  | call c =>
    cases c with
    | advance =>
      cases hr : s.advance.1 with
      | ok => simp [Action.leaves, hr, Except.isOk, Except.toBool] at hstays
      | error e => exact s.follows_advance.voice?_of_error hr i
    | choose choice =>
      cases hr : (s.choose choice).1 with
      | ok => simp [Action.leaves, hr, Except.isOk, Except.toBool] at hstays
      | error e => exact (s.follows_choose choice).voice?_of_error hr i
    | jump position => exact s.voice?_jump position i
    | changeSpeaker => exact absurd trivial ha
    | setVariable | addVariable | removeVariable => exact s.voice?_tryLocals _ i
    | output | expand | speakerName | takeSpeakerChanged | getVariable | snapshot => rfl

/-- After an action that takes the reader off its place: the standing speaker has returned, unless
somebody else has been announced, and may be overridden again by the line that is reached. -/
theorem voice?_run_of_leaves {a : Action} (ha : ¬a.SetsSpeaker) (hleaves : a.leaves s = true)
    {u : Tree} (hu : s.library.tree? i = some u) (hv : s.voice? i = some v) :
    ∃ after, (a.run s).2.voice? i = some after ∧
      u.document.Sounds ((s.announced? a i).getD v.standing) after := by
  cases a with
  | load tree start => exact (s.enters_load tree start).sounds rfl hu hv
  | unload => exact exists_voice?_unload hv _
  | resume => exact absurd trivial ha
  | call c =>
    cases c with
    | advance =>
      cases hr : s.advance.1 with
      | ok type => exact s.follows_advance.sounds_of_ok hr rfl hu hv
      | error => simp [Action.leaves, hr, Except.isOk, Except.toBool] at hleaves
    | choose choice =>
      cases hr : (s.choose choice).1 with
      | ok type => exact (s.follows_choose choice).sounds_of_ok hr rfl hu hv
      | error => simp [Action.leaves, hr, Except.isOk, Except.toBool] at hleaves
    | _ => cases hleaves

/-! ## Standing speakers -/

theorem announced?_of_follows {a : Action} {r : Except ReaderError NodeType × Session}
    (h : s.Follows a r) {e : ReaderError} (hr : r.1 = .error e) (i : Nat) :
    s.announced? a i = none := by
  cases h with
  | stays hpass => exact announced?_of_no_pass hpass i
  | walks hl hpass hw => exact announced?_of_error hpass ((result_of_settle hl hw).trans hr) i

/-- A reader that stays where it is has not heard of anybody. -/
theorem announced?_of_stays {a : Action} (hstays : a.leaves s = false) (i : Nat) :
    s.announced? a i = none := by
  cases a with
  | load | unload => cases hstays
  | resume => rfl
  | call c =>
    cases c with
    | advance =>
      cases hr : s.advance.1 with
      | ok => simp [Action.leaves, hr, Except.isOk, Except.toBool] at hstays
      | error e => exact announced?_of_follows s.follows_advance hr i
    | choose choice =>
      cases hr : (s.choose choice).1 with
      | ok => simp [Action.leaves, hr, Except.isOk, Except.toBool] at hstays
      | error e => exact announced?_of_follows (s.follows_choose choice) hr i
    | _ => rfl

theorem voice?_eq_none : s.voice? i = none ↔ s.library.tree? i = none := by
  simp [voice?]

theorem tree?_run_eq_none (a : Action) (h : s.library.tree? i = none) :
    (a.run s).2.library.tree? i = none := by
  have hdocuments := congrArg (·[i]?) (a.documents_run s)
  simpa [Library.documents_getElem?, h] using hdocuments

/-- The standing speaker of a tree is the one who was last announced there. -/
theorem standing?_run {a : Action} (ha : ¬a.SetsSpeaker) (i : Nat) :
    (a.run s).2.standing? i =
      (s.standing? i).map fun speaker => (s.announced? a i).getD speaker := by
  unfold standing?
  cases hv : s.voice? i with
  | none =>
    rw [voice?_eq_none.mpr (tree?_run_eq_none a (voice?_eq_none.mp hv))]
    rfl
  | some v =>
    cases hleaves : a.leaves s with
    | false =>
      rw [voice?_run_of_stays ha hleaves, hv, announced?_of_stays hleaves]
      rfl
    | true =>
      obtain ⟨u, hu, -⟩ := Option.map_eq_some_iff.mp hv
      obtain ⟨after, hafter, hsounds⟩ := voice?_run_of_leaves ha hleaves hu hv
      rw [hafter]
      exact congrArg some hsounds.standing_eq

end Session

end DialogueTree
