import DialogueTree.Proofs.Reader.Evaluation

/-!
# Who speaks on a walk

The one who speaks may be the speaker of a single line, and give way to the standing speaker when
the line is left; until then the standing speaker is kept aside. Both together are a `Voice`. Each
visit starts by letting the standing speaker return, so what a walk leaves of the voice it starts
with is the standing speaker, and only if nobody else is announced on the way.

Results:
* `Scene.writes_of_solve`: evaluation has nothing to do with speakers.
* `Document.walk_voice`: the voice where a walk comes to rest.
* `Document.settle_voice_of_error`: the voice where it fails.
-/

namespace DialogueTree

/-- Who speaks in a tree, and the speaker to return to when the current line is left. -/
structure Voice where
  speaker : Speaker
  pending : Option Speaker
  deriving DecidableEq

/-- The speaker who speaks when no line has one of its own. -/
def Voice.standing (v : Voice) : Speaker := v.pending.getD v.speaker

/-- The speaker that a node announces. -/
def Content.announced? : Content → Option Speaker
  | .newSpeaker speaker => some speaker
  | _ => none

/-- Who speaks in a scene. -/
def Scene.voice (s : Scene) : Voice := ⟨s.speaker, s.pending⟩

namespace Document

variable {d : Document} {s after : Scene} {i : Nat} {n : Node}

/-- The last speaker that is announced at one of some visits. -/
def announced? (d : Document) (vs : List Visit) : Option Speaker :=
  (vs.filterMap fun v => (d.node? v.position).bind (·.content.announced?)).getLast?

/-- The voices that a tree may have when a walk has come to rest, or a tree has been left, while a
speaker stands: that speaker's, or the one of a line with a speaker of its own. -/
inductive Sounds (d : Document) (standing : Speaker) : Voice → Prop
  | plain : Sounds d standing ⟨standing, none⟩
  | line {i : Nat} {n : Node} {text : String} {speaker : Speaker} : d.node? i = some n →
      n.content = .dialogue text (some speaker) → Sounds d standing ⟨speaker, some standing⟩

theorem Sounds.standing_eq {speaker : Speaker} {v : Voice} (h : d.Sounds speaker v) :
    v.standing = speaker := by
  cases h <;> rfl

end Document

theorem Scene.voice_revert (s : Scene) : s.revert.voice = ⟨s.voice.standing, none⟩ := by
  unfold revert voice Voice.standing
  cases h : s.pending with
  | none => simp [h]
  | some speaker => rfl

/-! ## Evaluation -/

namespace Scene

variable {s after : Scene} {d : Document} {n : Node}

/-- Evaluation writes to variables and to the default way in, nothing else. -/
def Writes (s after : Scene) : Prop :=
  ∃ locals globals start,
    after = { s with locals := locals, globals := globals, defaultStart := start }

theorem Writes.voice_eq (h : s.Writes after) : after.voice = s.voice := by
  obtain ⟨locals, globals, start, rfl⟩ := h
  rfl

theorem writes_of_solve {passed : Bool} (h : s.solve d n = .ok (after, passed)) :
    s.Writes after := by
  have hspec := s.solve_spec d n
  rw [h] at hspec
  exact ⟨_, _, _, hspec⟩

end Scene

/-! ## Visits -/

namespace Document

variable {d : Document} {s after : Scene} {i next : Nat} {n : Node}

theorem announced?_of_computes (h : n.content.computes = true) : n.content.announced? = none := by
  cases hc : n.content <;> simp_all [Content.computes, Content.announced?]

/-- A node that is passed announces its speaker, if it has one to announce. -/
theorem Passes.voice_eq (h : d.Passes s n after next) :
    after.voice = ⟨n.content.announced?.getD s.speaker, s.pending⟩ := by
  cases h with
  | compute hcomp hsolve =>
    rw [announced?_of_computes hcomp]
    exact (Scene.writes_of_solve hsolve).voice_eq
  | newSpeaker hc => rw [hc]; rfl
  | teleportIn hc => rw [hc]; rfl
  | teleportOut hc => rw [hc]; rfl

/-- A node that is rested on announces nobody, but may have a speaker of its own. -/
theorem Rests.voice_spec (h : Rests s n after) (hn : d.node? i = some n) (hs : s.pending = none) :
    n.content.announced? = none ∧ d.Sounds s.speaker after.voice := by
  have hplain : s.voice = ⟨s.speaker, none⟩ := congrArg (Voice.mk s.speaker) hs
  cases h with
  | plain htype =>
    refine ⟨?_, hplain ▸ .plain⟩
    cases hc : n.content <;> simp_all [Node.type, Content.type, Content.announced?]
  | dialogue hc =>
    rename_i text override
    refine ⟨by rw [hc]; rfl, ?_⟩
    cases override with
    | none => exact hplain ▸ .plain
    | some speaker => exact .line hn hc

theorem announced?_cons {v : Visit} (vs : List Visit) (hn : d.node? v.position = some n) :
    d.announced? (v :: vs) = (d.announced? vs).or n.content.announced? := by
  unfold announced?
  cases ha : n.content.announced? with
  | none => simp [hn, ha]
  | some speaker => simp [hn, ha, List.getLast?_cons]

/-- A walk that comes to rest: the standing speaker is the last one that was announced, if any
was, and speaks unless the line that is reached has a speaker of its own. -/
theorem walk_voice {cursor hops : Nat} {r : Rest} (h : d.walk cursor hops s i = (.ok r, after)) :
    d.Sounds ((d.announced? (d.visits hops s i)).getD s.voice.standing) after.voice := by
  induction hops generalizing s i with
  | zero => cases h
  | succ hops ih =>
    have hspeaker : s.revert.speaker = s.voice.standing := congrArg Voice.speaker s.voice_revert
    have hpending : s.revert.pending = none := congrArg Voice.pending s.voice_revert
    rw [walk] at h
    split at h
    next next mid hvisit =>
      obtain ⟨n, hn, hpass⟩ := visit_eq_pass hvisit
      have hmid : mid.voice.standing = n.content.announced?.getD s.voice.standing := by
        rw [hpass.voice_eq, hspeaker, hpending]
        rfl
      rw [visits_of_pass hops hvisit, announced?_cons _ hn, Option.getD_or, ← hmid]
      exact ih h
    next reached _ hvisit =>
      cases h
      obtain ⟨n, hn, -, hrest⟩ := visit_eq_rest hvisit
      obtain ⟨hquiet, hsounds⟩ := hrest.voice_spec hn hpending
      have hlast : d.visits (hops + 1) s i = [⟨s, i⟩] := by rw [visits, hvisit]
      rw [hlast, announced?_cons _ hn, hquiet, ← hspeaker]
      exact hsounds
    next => cases h

/-- Where a walk fails the voice is the one from before it. -/
theorem settle_voice_of_error {cursor : Nat} {e : ReaderError}
    (h : d.settle cursor s i = (.error e, after)) : after.voice = s.voice := by
  unfold settle at h
  split at h
  next => cases h
  next =>
    cases h
    rfl

end Document

end DialogueTree
