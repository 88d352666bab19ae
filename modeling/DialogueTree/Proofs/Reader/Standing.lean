import DialogueTree.Proofs.Reader.TreeVoice

/-!
# Standing speakers over many actions

As long as nobody but one reader changes the speakers of a library, the standing speaker of a tree
is the one who was last announced on a walk through it: lines with a speaker of their own come and
go, walks fail, the reader leaves and returns, and nothing of that is left behind. A host that names
a speaker, or resets the tree, changes who speaks but not who waits to return. So on a line with a
speaker of its own the change lasts no longer than the line.

Results:
* `Session.standing?_after`: the standing speaker after any number of actions.
* `Session.standing_law`: what each action does to it, and who speaks when the reader is idle.
* `Session.standing_after_change`: what becomes of a change by the host.
-/

namespace DialogueTree

namespace Session

variable {s : Session} {i : Nat}

/-- What a session is after some actions. -/
def after (s : Session) : List Action → Session
  | [] => s
  | a :: rest => (a.run s).2.after rest

/-- The speakers that some actions give to a tree. -/
def announcements (s : Session) (i : Nat) : List Action → List Speaker
  | [] => []
  | a :: rest => (s.announced? a i).toList ++ (a.run s).2.announcements i rest

/-- The standing speaker of a tree is the one who was last announced there. -/
theorem standing?_after {actions : List Action} (hown : ∀ a ∈ actions, ¬a.SetsSpeaker) :
    (s.after actions).standing? i =
      (s.standing? i).map fun speaker => (s.announcements i actions).getLast?.getD speaker := by
  induction actions generalizing s with
  | nil => simp [after, announcements]
  | cons a rest ih =>
    obtain ⟨ha, hrest⟩ := List.forall_mem_cons.mp hown
    rw [after, ih hrest, standing?_run ha, Option.map_map, announcements]
    congr 1
    funext speaker
    cases hann : s.announced? a i with
    | none => simp
    | some new =>
      simp [List.getLast?_cons]

/-- Who speaks in a tree that no reader waits to change, is its standing speaker. -/
theorem standing?_of_idle (h : s.reader.place = none) (i : Nat) :
    s.standing? i = (s.library.tree? i).map (·.speaker) := by
  rw [standing?, voice?_of_pending_none (by simp [h]), Option.map_map]
  rfl

/-- A reader that no other reader and no host interferes with: an action that comes to rest gives
its tree the speaker who is last announced on the walk, if any is, and all else that the reader
does leaves the standing speakers alone. When the reader is idle they are the ones who speak, so
that nothing of a line with a speaker of its own outlasts the stay in its tree. -/
theorem standing_law (l : Library) {actions : List Action}
    (hown : ∀ a ∈ actions, ¬a.SetsSpeaker) :
    let s : Session := after ⟨l, {}⟩ actions
    (∀ a, ¬a.SetsSpeaker → ∀ i,
      (∀ w type, s.pass? a = some w → (a.run s).1.result? = some (.ok type) →
        s.ground? a = some i → (a.run s).2.standing? i =
          (s.standing? i).map fun speaker => (w.document.announced? w.visits).getD speaker) ∧
      ((s.pass? a = none ∨ s.ground? a ≠ some i ∨
          ∃ e, (a.run s).1.result? = some (.error e)) →
        (a.run s).2.standing? i = s.standing? i)) ∧
    (s.reader.place = none → ∀ i, s.standing? i = (s.library.tree? i).map (·.speaker)) ∧
    ∀ i, s.standing? i = (l.tree? i).map fun t =>
      ((⟨l, {}⟩ : Session).announcements i actions).getLast?.getD t.speaker := by
  intro s
  refine ⟨fun a ha i => ⟨?_, ?_⟩, standing?_of_idle, fun i => ?_⟩
  · intro w type hpass hok hground
    have hresult : w.result = .ok type := Option.some.inj ((result?_run hpass).symm.trans hok)
    rw [standing?_run ha, announced?_of_ok hpass hground hresult, if_pos rfl]
  · intro hquiet
    have hnone : s.announced? a i = none := by
      rcases hquiet with hpass | hground | ⟨e, he⟩
      · exact announced?_of_no_pass hpass i
      · exact announced?_of_ground_ne hground
      · cases hpass : s.pass? a with
        | none => exact announced?_of_no_pass hpass i
        | some w =>
          exact announced?_of_error hpass (Option.some.inj ((result?_run hpass).symm.trans he)) i
    rw [standing?_run ha, hnone]
    simp
  · rw [standing?_after hown, standing?_of_idle rfl, Option.map_map]
    rfl

end Session

/-! ## A tree with a guest -/

/-- A tree in which a guest has one line. By its first way in, a host is announced before that. -/
def Document.visited : Document :=
  { name := "visited"
    nodes :=
      [⟨0, .info { name := "Ann" }, [], []⟩,
        ⟨1, .start 0, [], [⟨2, 0⟩]⟩,
        ⟨2, .newSpeaker { name := "Host" }, [⟨1, 0⟩], [⟨3, 0⟩]⟩,
        ⟨3, .dialogue "Hello" (some { name := "Guest" }), [⟨2, 0⟩, ⟨6, 0⟩], [⟨4, 0⟩]⟩,
        ⟨4, .dialogue "Goodbye" none, [⟨3, 0⟩], [⟨5, 0⟩]⟩,
        ⟨5, .finish, [⟨4, 0⟩], []⟩,
        ⟨6, .start 1, [], [⟨3, 0⟩]⟩] }

/-- A library of that tree alone. -/
def Library.visited : Library := ⟨[.ofDocument .visited], {}⟩

/-- A whole visit: to the end, in vain beyond it, and out. -/
def Session.wholeVisit : List Action :=
  [.load 0 none, .call .advance, .call .advance, .call .advance, .unload]

/-- The host is announced, the guest comes and goes, and the host is the one who stays. -/
theorem Session.visited_standing :
    (∀ a ∈ wholeVisit, ¬a.SetsSpeaker) ∧
    (after ⟨.visited, {}⟩ wholeVisit).reader.place = none ∧
    ((after ⟨.visited, {}⟩ wholeVisit).library.tree? 0).map (·.speaker) =
      some { name := "Host" } := by
  have hown : ∀ a ∈ wholeVisit, ¬a.SetsSpeaker := by
    simp [wholeVisit, Action.SetsSpeaker]
  obtain ⟨-, hidle, hhistory⟩ := standing_law .visited hown
  refine ⟨hown, by decide, ?_⟩
  rw [← hidle (by decide), hhistory]
  decide

/-! ## Changes by the host -/

/-- How a host changes the speaker of the tree that a reader rests in. -/
inductive HostChange where
  | speaker (new : Speaker)
  | reset

namespace HostChange

/-- What a session is after the change. -/
def run (s : Session) : HostChange → Session
  | speaker new => (s.changeSpeaker new).2
  | reset => s.modifyTree (·.reset)

/-- The speaker that the change gives to a tree. -/
def given (t : Tree) : HostChange → Speaker
  | speaker new => new
  | reset => t.document.defaultSpeaker

end HostChange

namespace Session

variable {s : Session} {p : Place} {t : Tree}

/-- A change by the host leaves alone who waits to return. -/
theorem voice?_host (hl : s.loaded? = some (p, t)) (change : HostChange) :
    (change.run s).voice? p.tree = some ⟨change.given t, p.pending⟩ := by
  obtain ⟨hplace, htree⟩ := loaded?_eq_some.mp hl
  cases change with
  | speaker new =>
    simp [HostChange.run, changeSpeaker, modifyTree, hl, voice?, htree, Reader.pendingIn, hplace,
      HostChange.given]
  | reset =>
    simp [HostChange.run, modifyTree, hl, voice?, htree, Reader.pendingIn, hplace,
      HostChange.given, Tree.reset, Tree.ofDocument]

/-- As long as nobody is announced, the standing speaker after a change by the host is the one who
waited to return, and only if nobody did, the one whom the host has named. So the change stands if
and only if it is made where nobody waits, or names the one who does. -/
theorem standing_after_change (hl : s.loaded? = some (p, t)) (change : HostChange)
    {actions : List Action} (hown : ∀ a ∈ actions, ¬a.SetsSpeaker)
    (hquiet : (change.run s).announcements p.tree actions = []) :
    ((change.run s).after actions).standing? p.tree = some (p.pending.getD (change.given t)) ∧
    (((change.run s).after actions).standing? p.tree = some (change.given t) ↔
      p.pending = none ∨ p.pending = some (change.given t)) := by
  have hstanding : ((change.run s).after actions).standing? p.tree =
      some (p.pending.getD (change.given t)) := by
    rw [standing?_after hown, hquiet, standing?, voice?_host hl]
    rfl
  refine ⟨hstanding, ?_⟩
  rw [hstanding]
  cases p.pending with
  | none => simp
  | some waiting => simp

/-- On the line after the guest's, whom the host names stays. -/
theorem visited_after_change :
    let s : Session := after ⟨.visited, {}⟩ [.load 0 none, .call .advance]
    let change : HostChange := .speaker { name := "Bard" }
    (∀ a ∈ [Action.call .advance, .unload], ¬a.SetsSpeaker) ∧
    (change.run s).announcements 0 [.call .advance, .unload] = [] ∧
    ((change.run s).after [.call .advance, .unload]).standing? 0 = some { name := "Bard" } := by
  intro s change
  have hl : s.loaded? = some (⟨0, 4, none⟩,
      { Tree.ofDocument .visited with speaker := { name := "Host" } }) := by decide
  have hown : ∀ a ∈ [Action.call .advance, .unload], ¬a.SetsSpeaker := by
    simp [Action.SetsSpeaker]
  have hquiet : (change.run s).announcements 0 [.call .advance, .unload] = [] := by decide
  exact ⟨hown, hquiet, (standing_after_change hl change hown hquiet).1⟩

/-- While the guest speaks neither kind of change outlasts the line, although the only node that
is visited on leaving it is the next line. -/
theorem host_change_undone :
    let visited (s : Session) := (s.pass? (.call .advance)).map (·.visits.map (·.position))
    let named : Session :=
      (HostChange.speaker { name := "Bard" }).run (after ⟨.visited, {}⟩ [.load 0 (some 1)])
    let reset : Session := HostChange.reset.run (after ⟨.visited, {}⟩ [.load 0 none])
    Document.visited.issues = [] ∧ visited named = some [4] ∧
    (named.after [.call .advance]).standing? 0 = some { name := "Ann" } ∧
    visited reset = some [4] ∧
    (reset.after [.call .advance]).standing? 0 = some { name := "Host" } ∧
    Document.visited.defaultSpeaker = { name := "Ann" } := by
  decide

end Session

end DialogueTree
