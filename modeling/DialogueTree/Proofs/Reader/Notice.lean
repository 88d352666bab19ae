import Mathlib.Data.List.Chain
import DialogueTree.Proofs.Reader.Resumption

/-!
# Changes of the speaker are noticed

A reader remembers whether the speaker of its tree has changed since its host last asked. A walk
makes it do so where a speaker returns, where one is announced and where a line brings its own, and
a walk that fails leaves it as it was. So as long as it has nothing to tell, the speaker is the one
of the last time; this is the invariant. Only a host that names a speaker itself is not told.

Results:
* `Document.walk_changed`: when a walk has something to tell.
* `Session.shows_run`: the invariant, kept by every call but those that ask or name a speaker.
* `Session.hears_isChain`: no change of the speaker between two questions is missed.
* `Session.speaker_noticed`: when a walk has something to tell, and what a host hears.
-/

namespace DialogueTree

/-- Whether a node brings in a speaker: it announces one, or is a line with one of its own. -/
def Content.introduces : Content → Bool
  | .newSpeaker _ | .dialogue _ (some _) => true
  | _ => false

theorem Content.introduces_eq_true {c : Content} :
    c.introduces = true ↔ (∃ speaker, c = .newSpeaker speaker) ∨
      ∃ text speaker, c = .dialogue text (some speaker) := by
  unfold introduces
  split <;> simp_all

/-- Whether a speaker is brought in at one of some visits. -/
def Document.introduces (d : Document) (vs : List Document.Visit) : Bool :=
  vs.any fun v => (d.node? v.position).any (·.content.introduces)

theorem Document.introduces_eq_true {d : Document} {vs : List Document.Visit} :
    d.introduces vs = true ↔ ∃ v ∈ vs, ∃ n, d.node? v.position = some n ∧
      ((∃ speaker, n.content = .newSpeaker speaker) ∨
        ∃ text speaker, n.content = .dialogue text (some speaker)) := by
  simp only [introduces, List.any_eq_true, Option.any_eq_true, Content.introduces_eq_true]

/-! ## What a walk has to tell -/

namespace Scene

variable {s after after' : Scene}

theorem changed_revert (s : Scene) : s.revert.changed = (s.changed || s.pending.isSome) := by
  unfold revert
  cases s.pending <;> simp

/-- A scene has something to tell, or has the same speaker as an earlier one that has not. -/
def Shows (s after : Scene) : Prop :=
  after.changed = false → s.changed = false ∧ after.speaker = s.speaker

theorem Shows.refl (s : Scene) : s.Shows s := fun h => ⟨h, rfl⟩

theorem Shows.trans (h : s.Shows after) (h' : after.Shows after') : s.Shows after' := by
  intro hquiet
  obtain ⟨hmid, hspeaker'⟩ := h' hquiet
  obtain ⟨hs, hspeaker⟩ := h hmid
  exact ⟨hs, hspeaker'.trans hspeaker⟩

theorem shows_revert (s : Scene) : s.Shows s.revert := by
  unfold revert
  split
  · intro h
    cases h
  · exact .refl s

theorem shows_override (s : Scene) (speaker : Option Speaker) : s.Shows (s.override speaker) := by
  cases speaker with
  | none => exact .refl s
  | some speaker =>
    intro h
    cases h

theorem shows_announce (s : Scene) (speaker : Speaker) : s.Shows (s.announce speaker) := by
  intro h
  cases h

theorem Writes.shows (h : s.Writes after) : s.Shows after := by
  obtain ⟨locals, globals, start, rfl⟩ := h
  exact fun hquiet => ⟨hquiet, rfl⟩

theorem Writes.changed_eq (h : s.Writes after) : after.changed = s.changed := by
  obtain ⟨locals, globals, start, rfl⟩ := h
  rfl

end Scene

namespace Document

variable {d : Document} {s after : Scene} {i next : Nat} {n : Node}

theorem introduces_of_computes (h : n.content.computes = true) : n.content.introduces = false := by
  cases hc : n.content <;> simp_all [Content.computes, Content.introduces]

/-- A node that is passed has something to tell if it brings in a speaker. -/
theorem Passes.changed_eq (h : d.Passes s n after next) :
    after.changed = (s.changed || n.content.introduces) := by
  cases h with
  | compute hcomp hsolve =>
    rw [introduces_of_computes hcomp, Bool.or_false]
    exact (Scene.writes_of_solve hsolve).changed_eq
  | newSpeaker hc => simp [hc, Content.introduces, Scene.announce]
  | teleportIn hc => simp [hc, Content.introduces]
  | teleportOut hc => simp [hc, Content.introduces]

/-- So does one that is rested on. -/
theorem Rests.changed_eq (h : Rests s n after) :
    after.changed = (s.changed || n.content.introduces) := by
  cases h with
  | plain htype =>
    have hquiet : n.content.introduces = false := by
      cases hc : n.content <;> simp_all [Node.type, Content.type, Content.introduces]
    rw [hquiet, Bool.or_false]
  | dialogue hc =>
    rename_i text override
    cases override <;> simp [hc, Content.introduces, Scene.override]

theorem Passes.shows (h : d.Passes s n after next) : s.Shows after := by
  cases h with
  | compute _ hsolve => exact (Scene.writes_of_solve hsolve).shows
  | newSpeaker => exact s.shows_announce _
  | teleportIn | teleportOut => exact .refl s

theorem Rests.shows (h : Rests s n after) : s.Shows after := by
  cases h with
  | plain => exact .refl s
  | dialogue => exact s.shows_override _

/-- A walk that comes to rest has something to tell if there was something before, if a speaker
has returned, or if one has been brought in. -/
theorem walk_changed {cursor hops : Nat} {r : Rest} (h : d.walk cursor hops s i = (.ok r, after)) :
    after.changed = (s.changed || s.pending.isSome || d.introduces (d.visits hops s i)) := by
  induction hops generalizing s i with
  | zero => cases h
  | succ hops ih =>
    rw [walk] at h
    split at h
    next next mid hvisit =>
      obtain ⟨n, hn, hpass⟩ := visit_eq_pass hvisit
      have hpending : mid.pending = none :=
        (congrArg Voice.pending hpass.voice_eq).trans (congrArg Voice.pending s.voice_revert)
      rw [ih h, hpass.changed_eq, s.changed_revert, hpending, visits_of_pass hops hvisit]
      simp [introduces, hn, Bool.or_assoc]
    next reached _ hvisit =>
      cases h
      obtain ⟨n, hn, -, hrest⟩ := visit_eq_rest hvisit
      rw [hrest.changed_eq, s.changed_revert, visits, hvisit]
      simp [introduces, hn]
    next => cases h

theorem walk_shows {cursor hops : Nat} {r : Rest} (h : d.walk cursor hops s i = (.ok r, after)) :
    s.Shows after := by
  induction hops generalizing s i with
  | zero => cases h
  | succ hops ih =>
    rw [walk] at h
    split at h
    next next mid hvisit =>
      obtain ⟨n, -, hpass⟩ := visit_eq_pass hvisit
      exact (s.shows_revert.trans hpass.shows).trans (ih h)
    next reached _ hvisit =>
      cases h
      obtain ⟨n, -, -, hrest⟩ := visit_eq_rest hvisit
      exact s.shows_revert.trans hrest.shows
    next => cases h

/-- A walk that fails has nothing to tell. -/
theorem settle_shows (d : Document) (cursor : Nat) (s : Scene) (first : Nat) :
    s.Shows (d.settle cursor s first).2 := by
  unfold settle
  split
  next h => exact walk_shows h
  next => exact fun hquiet => ⟨hquiet, rfl⟩

end Document

/-! ## Calls -/

namespace Conversation

variable {c : Conversation}

theorem shows_follow (c : Conversation) (exit : Except ReaderError Nat) :
    c.scene.Shows (c.follow exit).2.scene := by
  unfold follow
  split
  next => exact .refl _
  next first =>
    have hsettle := c.document.settle_shows c.cursor c.scene first
    split
    next h => rwa [h] at hsettle
    next h => rwa [h] at hsettle

theorem shows_tryLocals (c : Conversation) (f : Store → Option Store) :
    c.scene.Shows (c.tryLocals f).2.scene := by
  unfold tryLocals
  split
  · exact fun hquiet => ⟨hquiet, rfl⟩
  · exact .refl _

end Conversation

namespace Call

/-- Whether a call asks if the speaker has changed. -/
def asks : Call → Bool
  | takeSpeakerChanged => true
  | _ => false

/-- Whether a call names a speaker. -/
def names : Call → Bool
  | changeSpeaker _ => true
  | _ => false

/-- Whether a call sends the reader on. -/
def walks : Call → Bool
  | advance | choose _ => true
  | _ => false

theorem shows_converse (c : Conversation) {call : Call} (hasks : call.asks = false)
    (hnames : call.names = false) : c.scene.Shows (call.converse c).2.scene := by
  cases call with
  | advance => exact c.shows_follow _
  | choose choice => exact c.shows_follow _
  | jump i =>
    unfold converse Conversation.jump
    dsimp only
    split <;> exact .refl _
  | takeSpeakerChanged => cases hasks
  | changeSpeaker => cases hnames
  | setVariable | addVariable | removeVariable => exact c.shows_tryLocals _
  | output | expand | speakerName | getVariable | snapshot => exact .refl _

/-- A call that does not walk brings nothing to tell. -/
theorem changed_converse (c : Conversation) {call : Call} (hwalks : call.walks = false)
    (h : c.scene.changed = false) : (call.converse c).2.scene.changed = false := by
  cases call with
  | advance | choose => cases hwalks
  | jump i =>
    unfold converse Conversation.jump
    dsimp only
    split <;> exact h
  | setVariable | addVariable | removeVariable =>
    unfold converse Conversation.tryLocals
    dsimp only
    split <;> exact h
  | takeSpeakerChanged => rfl
  | output | expand | speakerName | changeSpeaker | getVariable | snapshot => exact h

end Call

/-! ## Sessions -/

namespace Session

variable {s : Session} {c : Conversation} {w : Pass}

theorem speakerChanged_of_conversation? (h : s.conversation? = some c) :
    s.reader.speakerChanged = c.scene.changed := by
  obtain ⟨p, t, -, rfl⟩ := conversation?_eq_some.mp h
  rfl

theorem speaker?_of_conversation? (h : s.conversation? = some c) :
    s.speaker? = some c.scene.speaker := by
  obtain ⟨p, t, hl, rfl⟩ := conversation?_eq_some.mp h
  rw [speaker?, tree?_of_loaded? hl]
  rfl

/-- A session has something to tell, or has the same speaker as an earlier one that has not. -/
def Shows (s after : Session) : Prop :=
  after.reader.speakerChanged = false →
    s.reader.speakerChanged = false ∧ after.speaker? = s.speaker?

/-- A reader outside of all trees can only be asked. -/
theorem run_of_not_loaded (h : s.loaded? = none) {call : Call} (hasks : call.asks = false) :
    (call.run s).2 = s := by
  cases call with
  | takeSpeakerChanged => cases hasks
  | advance => simp only [Call.run, advance, h]
  | choose choice => simp only [Call.run, choose, h]
  | jump i => simp only [Call.run, jump, h]
  | changeSpeaker speaker => simp only [Call.run, changeSpeaker, h]
  | setVariable | addVariable | removeVariable =>
    have htree : s.tree? = none := by rw [tree?, h]; rfl
    simp only [Call.run, setVariable, addVariable, removeVariable, tryLocals, htree,
      Option.bind_none]
  | output | expand | speakerName | getVariable | snapshot => rfl

theorem shows_run {call : Call} (hasks : call.asks = false) (hnames : call.names = false) :
    s.Shows (call.run s).2 := by
  cases hc : s.conversation? with
  | none =>
    rw [run_of_not_loaded (Option.map_eq_none_iff.mp hc) hasks]
    exact fun hquiet => ⟨hquiet, rfl⟩
  | some c =>
    have hafter := (call.run_conversation hc).2
    have hshows := Call.shows_converse c hasks hnames
    unfold Shows
    rw [speakerChanged_of_conversation? hc, speakerChanged_of_conversation? hafter,
      speaker?_of_conversation? hc, speaker?_of_conversation? hafter, Option.some_inj]
    exact hshows

/-- As long as the reader does not walk, it has nothing more to tell. -/
theorem speakerChanged_run {call : Call} (hwalks : call.walks = false)
    (h : s.reader.speakerChanged = false) : (call.run s).2.reader.speakerChanged = false := by
  cases hc : s.conversation? with
  | none =>
    by_cases hasks : call.asks = true
    · cases call with
      | takeSpeakerChanged => rfl
      | _ => cases hasks
    · rw [run_of_not_loaded (Option.map_eq_none_iff.mp hc) (Bool.eq_false_iff.mpr hasks)]
      exact h
  | some c =>
    rw [speakerChanged_of_conversation? (call.run_conversation hc).2]
    exact Call.changed_converse c hwalks ((speakerChanged_of_conversation? hc).symm.trans h)

theorem speakerChanged_after {calls : List Call} (hwalks : ∀ call ∈ calls, call.walks = false)
    (h : s.reader.speakerChanged = false) :
    (s.after (calls.map .call)).reader.speakerChanged = false := by
  induction calls generalizing s with
  | nil => exact h
  | cons call rest ih =>
    obtain ⟨hcall, hrest⟩ := List.forall_mem_cons.mp hwalks
    exact ih hrest (speakerChanged_run hcall h)

/-- After a walk that comes to rest, a reader has something to tell if it had before, if a speaker
has returned, or if one has been brought in. -/
theorem speakerChanged_of_pass {a : Action} (h : s.pass? a = some w) {type : NodeType}
    (hok : w.result = .ok type) :
    (a.run s).2.reader.speakerChanged = (w.conversation.scene.changed ||
      w.conversation.scene.pending.isSome || w.document.introduces w.visits) := by
  rw [speakerChanged_of_conversation? (conversation?_run h hok)]
  unfold Pass.result Conversation.follow at hok
  unfold Conversation.follow
  dsimp only at hok ⊢
  split at hok
  next hsettle => exact Document.walk_changed (Document.settle_eq_ok.mp hsettle)
  next => cases hok

end Session

/-! ## What a host hears -/

/-- What a host hears when it asks whether the speaker has changed: the answer, and who speaks. The
conversations of a reader are counted. -/
structure Hearing where
  conversation : Nat
  speaker : Option Speaker
  changed : Bool
  deriving DecidableEq

/-- A change from one hearing to another one of the same conversation is told at the latter. -/
def Hearing.Told (earlier later : Hearing) : Prop :=
  earlier.conversation = later.conversation → earlier.speaker ≠ later.speaker →
    later.changed = true

namespace Session

variable {s : Session} {number : Nat} {last : Hearing}

/-- What a host hears on an action. -/
def heard? (s : Session) (number : Nat) : Action → Option Hearing
  | .call .takeSpeakerChanged => some ⟨number, s.speaker?, s.takeSpeakerChanged.1⟩
  | _ => none

/-- The number of the conversation after an action. A snapshot that is refused does not end it. -/
def conversationAfter (s : Session) (number : Nat) : Action → Nat
  | .load .. | .unload => number + 1
  | .resume tree snap => if (s.resume tree snap).1.isOk then number + 1 else number
  | .call _ => number

/-- What a host hears on some actions, from the conversation with a number on. -/
def hears (s : Session) (number : Nat) : List Action → List Hearing
  | [] => []
  | a :: rest =>
    (s.heard? number a).toList ++ (a.run s).2.hears (s.conversationAfter number a) rest

/-- What has been heard last still holds, or the reader has something to tell. -/
structure Knows (s : Session) (number : Nat) (last : Hearing) : Prop where
  earlier : last.conversation ≤ number
  speaker : last.conversation = number → s.reader.speakerChanged = false →
    s.speaker? = last.speaker

/-- In another conversation nothing is known. -/
theorem Knows.begins (h : s.Knows number last) (s' : Session) : s'.Knows (number + 1) last where
  earlier := Nat.le_succ_of_le h.earlier
  speaker hsame := absurd (hsame.symm.trans_le h.earlier) (Nat.not_succ_le_self number)

theorem Knows.shows (h : s.Knows number last) {s' : Session} (hs : s.Shows s') :
    s'.Knows number last where
  earlier := h.earlier
  speaker hsame hquiet := by
    obtain ⟨hbefore, hspeaker⟩ := hs hquiet
    exact hspeaker.trans (h.speaker hsame hbefore)

/-- A reader that is asked tells of a change. -/
theorem Knows.told (h : s.Knows number last) :
    last.Told ⟨number, s.speaker?, s.takeSpeakerChanged.1⟩ := by
  intro hsame hdiffers
  cases hchanged : s.reader.speakerChanged with
  | true => exact hchanged
  | false => exact absurd (h.speaker hsame hchanged).symm hdiffers

/-- Whoever asks knows. -/
theorem knows_takeSpeakerChanged (s : Session) (number : Nat) :
    s.takeSpeakerChanged.2.Knows number ⟨number, s.speaker?, s.takeSpeakerChanged.1⟩ where
  earlier := le_rfl
  speaker _ _ := rfl

/-- What is heard on an action tells of a change since the last hearing, and then takes its
place. -/
theorem Knows.run (h : s.Knows number last) {a : Action}
    (ha : ∀ speaker, a ≠ .call (.changeSpeaker speaker)) :
    (∀ now, s.heard? number a = some now → last.Told now) ∧
      (a.run s).2.Knows (s.conversationAfter number a) ((s.heard? number a).getD last) := by
  cases a with
  | load | unload => exact ⟨nofun, h.begins _⟩
  | resume tree snap =>
    refine ⟨nofun, ?_⟩
    cases hresult : (s.resume tree snap).1 with
    | ok =>
      rw [conversationAfter, hresult]
      exact h.begins _
    | error e =>
      have hsame : (Action.run s (.resume tree snap)).2 = s := resume_of_error hresult
      rw [conversationAfter, hresult, hsame]
      exact h
  | call c =>
    cases c with
    | takeSpeakerChanged =>
      refine ⟨?_, s.knows_takeSpeakerChanged number⟩
      rintro now ⟨⟩
      exact h.told
    | changeSpeaker speaker => exact absurd rfl (ha speaker)
    | _ => exact ⟨nofun, h.shows (shows_run rfl rfl)⟩

theorem isChain_cons_hears (h : s.Knows number last) {actions : List Action}
    (hquiet : ∀ speaker, .call (.changeSpeaker speaker) ∉ actions) :
    (last :: s.hears number actions).IsChain Hearing.Told := by
  -- The last hearing is carried along, as the next one may be many actions away.
  induction actions generalizing s number last with
  | nil => exact .singleton last
  | cons a rest ih =>
    have hrest (speaker : Speaker) : .call (.changeSpeaker speaker) ∉ rest :=
      fun hmem => hquiet speaker (List.mem_cons_of_mem _ hmem)
    obtain ⟨htold, hknows⟩ := h.run (a := a) fun speaker ha =>
      hquiet speaker (ha ▸ List.mem_cons_self)
    rw [hears]
    cases hheard : s.heard? number a with
    | none =>
      rw [hheard] at hknows
      exact ih hknows hrest
    | some now =>
      rw [hheard] at hknows
      exact .cons_cons (htold now hheard) (ih hknows hrest)

/-- No change of the speaker between two hearings is missed. -/
theorem hears_isChain (s : Session) (number : Nat) {actions : List Action}
    (hquiet : ∀ speaker, .call (.changeSpeaker speaker) ∉ actions) :
    (s.hears number actions).IsChain Hearing.Told := by
  have hknows : s.Knows number ⟨number, s.speaker?, false⟩ := ⟨le_rfl, fun _ _ => rfl⟩
  exact (isChain_cons_hears hknows hquiet).tail

/-! ## Nothing is missed -/

/-- An advance or an answer that comes to rest leaves the reader with something to tell exactly if
it had before, if the speaker of the line that is left is to give way, or if the walk announces a
speaker or reaches a line with one of its own. So a host that does not name speakers itself hears
of every change from one time it asks to the next in the same conversation, and hears of none if it
asks once more before the reader walks on. -/
theorem speaker_noticed (s : Session) :
    (∀ a type, (a = .call .advance ∨ ∃ choice, a = .call (.choose choice)) →
      (a.run s).1.result? = some (.ok type) → ∃ w, s.pass? a = some w ∧
        ((a.run s).2.reader.speakerChanged = true ↔ s.reader.speakerChanged = true ∨
          (∃ p, s.reader.place = some p ∧ p.pending ≠ none) ∨
          ∃ v ∈ w.visits, ∃ n, w.document.node? v.position = some n ∧
            ((∃ speaker, n.content = .newSpeaker speaker) ∨
              ∃ text speaker, n.content = .dialogue text (some speaker)))) ∧
    (∀ actions : List Action, (∀ speaker, .call (.changeSpeaker speaker) ∉ actions) →
      (s.hears 0 actions).IsChain Hearing.Told) ∧
    ∀ calls : List Call, (∀ call ∈ calls, call.walks = false) →
      (s.takeSpeakerChanged.2.after (calls.map .call)).takeSpeakerChanged.1 = false := by
  refine ⟨fun a type ha hok => ?_, fun actions => s.hears_isChain 0,
    fun calls hwalks => speakerChanged_after hwalks rfl⟩
  obtain ⟨w, hpass, hresult, hc⟩ : ∃ w, s.pass? a = some w ∧ w.result = .ok type ∧
      s.conversation? = some w.conversation := by
    rcases ha with rfl | ⟨choice, rfl⟩
    · obtain ⟨w, hpass, hresult⟩ := s.follows_advance.exists_pass (Option.some.inj hok)
      exact ⟨w, hpass, hresult, (passFrom?_eq_some.mp hpass).1⟩
    · obtain ⟨w, hpass, hresult⟩ := (s.follows_choose choice).exists_pass (Option.some.inj hok)
      exact ⟨w, hpass, hresult, (passFrom?_eq_some.mp hpass).1⟩
  refine ⟨w, hpass, ?_⟩
  have hpending : w.conversation.scene.pending.isSome = true ↔
      ∃ p, s.reader.place = some p ∧ p.pending ≠ none := by
    obtain ⟨p, t, hl, hw⟩ := conversation?_eq_some.mp hc
    simp [hw, (loaded?_eq_some.mp hl).1, scene, Option.isSome_iff_ne_none]
  rw [speakerChanged_of_pass hpass hresult, Bool.or_eq_true, Bool.or_eq_true, or_assoc, hpending,
    Document.introduces_eq_true, speakerChanged_of_conversation? hc]

/-- A host that asks at each stop of a visit, and at the second one twice. -/
def askingVisit : List Action :=
  [.load 0 none, .call .takeSpeakerChanged, .call .advance, .call .takeSpeakerChanged,
    .call .takeSpeakerChanged, .call .advance, .call .takeSpeakerChanged]

/-- The guest's line tells of the guest and the line after it of the host, who returns. -/
theorem visited_noticed :
    let s : Session := after ⟨.visited, {}⟩ [.load 0 none, .call .takeSpeakerChanged]
    let asked : Session := s.advance.2.takeSpeakerChanged.2
    s.reader.speakerChanged = false ∧ s.advance.2.reader.speakerChanged = true ∧
    (∀ speaker, .call (.changeSpeaker speaker) ∉ askingVisit) ∧
    hears ⟨.visited, {}⟩ 0 askingVisit =
      [⟨1, some { name := "Guest" }, true⟩, ⟨1, some { name := "Host" }, true⟩,
        ⟨1, some { name := "Host" }, false⟩, ⟨1, some { name := "Host" }, false⟩] ∧
    (hears ⟨.visited, {}⟩ 0 askingVisit).IsChain Hearing.Told ∧
    (asked.after ([.jump 3, .output].map .call)).takeSpeakerChanged.1 = false := by
  intro s asked
  obtain ⟨hadvance, -, -⟩ := speaker_noticed s
  obtain ⟨-, hchain, -⟩ := speaker_noticed ⟨.visited, {}⟩
  obtain ⟨-, -, hagain⟩ := speaker_noticed s.advance.2
  have hquiet : ∀ speaker, .call (.changeSpeaker speaker) ∉ askingVisit := by
    simp [askingVisit]
  have hok : ((Action.call .advance).run s).1.result? = some (.ok .dialogue) := by decide
  obtain ⟨w, -, htells⟩ := hadvance (.call .advance) .dialogue (.inl rfl) hok
  have hpending : ∃ p, s.reader.place = some p ∧ p.pending ≠ none :=
    ⟨⟨0, 3, some { name := "Host" }⟩, by decide, by decide⟩
  exact ⟨by decide, htells.mpr (.inr (.inl hpending)), hquiet, by decide, hchain _ hquiet,
    hagain [.jump 3, .output] (by decide)⟩

end Session

end DialogueTree
