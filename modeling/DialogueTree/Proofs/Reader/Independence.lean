import DialogueTree.Proofs.Reader.Locality
import DialogueTree.Proofs.Reader.Sharing
import DialogueTree.Proofs.Reader.Standing

/-!
# Readers in trees of their own

Readers that share a library, but no tree, share only its variables. As long as none of them walks
past a change of such a variable, nobody can tell that there are others: whatever the order in which
they take their turns, each of them is told what it would be told if it were alone, and leaves its
tree as it would then.

Results:
* `Audience.Apart.keepsTo`, `Audience.Apart.sameFrom_move`: one turn, for the reader whose turn it
  is and for all others.
* `Audience.told_apart`: any turns of several readers.
-/

namespace DialogueTree

/-! ## Many turns -/

/-- What a reader is told on some actions, one after another. -/
def Session.told (s : Session) : List Action → List Reply
  | [] => []
  | a :: rest => (a.run s).1 :: (a.run s).2.told rest

namespace Audience

variable {a : Audience} {rs : List Nat} {home : Nat → Nat} {m : Move} {moves : List Move}

/-- What one reader is told in the course of some moves. -/
def told (a : Audience) (r : Nat) : List Move → List Reply
  | [] => []
  | m :: rest =>
    if m.reader = r then (m.action.run (a.session r)).1 :: (a.move m).told r rest
    else (a.move m).told r rest

/-- The actions of one reader among some moves. -/
def actionsOf (r : Nat) (moves : List Move) : List Action :=
  (moves.filter (·.reader = r)).map (·.action)

/-- Whether some readers are at home in trees of their own that leave the shared variables alone. -/
structure Apart (a : Audience) (rs : List Nat) (home : Nat → Nat) : Prop where
  homes : ∀ r ∈ rs, ∀ q ∈ rs, r ≠ q → home r ≠ home q
  isAt : ∀ r ∈ rs, (a.readers r).IsAt (home r)
  sparesShared : ∀ r ∈ rs, (a.session r).SparesShared (home r)

/-- Whether a move is one of some readers, in its own tree. -/
def Move.StaysIn (m : Move) (rs : List Nat) (home : Nat → Nat) : Prop :=
  m.reader ∈ rs ∧ m.action.StaysAt (home m.reader)

theorem session_move_self (a : Audience) (m : Move) :
    (a.move m).session m.reader = (m.action.run (a.session m.reader)).2 :=
  congrArg (Session.mk _) (if_pos rfl)

theorem readers_move_of_ne (a : Audience) {r : Nat} (hr : r ≠ m.reader) :
    (a.move m).readers r = a.readers r := if_neg hr

namespace Apart

theorem keepsTo (h : a.Apart rs home) (hm : m.StaysIn rs home) :
    Session.KeepsTo (home m.reader) (a.session m.reader) ((a.move m).session m.reader) := by
  rw [session_move_self]
  exact .run (h.isAt _ hm.1) (h.sparesShared _ hm.1) hm.2

/-- Readers that keep apart, stay apart. -/
theorem move (h : a.Apart rs home) (hm : m.StaysIn rs home) : (a.move m).Apart rs home := by
  refine ⟨h.homes, fun r hr => ?_, fun r hr => ?_⟩
  · by_cases hself : r = m.reader
    · subst hself
      exact (h.keepsTo hm).isAt
    · rw [readers_move_of_ne a hself]
      exact h.isAt r hr
  · have hdocuments : ((a.move m).session r).library.documents = a.library.documents :=
      a.documents_move m
    rw [Session.SparesShared, hdocuments]
    exact h.sparesShared r hr

/-- Nobody sees anything of the moves of the others. -/
theorem sameFrom_move (h : a.Apart rs home) (hm : m.StaysIn rs home) {r : Nat} (hr : r ∈ rs)
    (hother : r ≠ m.reader) :
    Session.SameFrom (home r) ((a.move m).session r) (a.session r) :=
  ⟨readers_move_of_ne a hother, (h.keepsTo hm).others _ (h.homes r hr _ hm.1 hother),
    (h.keepsTo hm).globals⟩

theorem globals_after (h : a.Apart rs home) (hmoves : ∀ m ∈ moves, m.StaysIn rs home) :
    (a.after moves).library.globals = a.library.globals := by
  induction moves generalizing a with
  | nil => rfl
  | cons m rest ih =>
    obtain ⟨hm, hrest⟩ := List.forall_mem_cons.mp hmoves
    exact (ih (h.move hm) hrest).trans (h.keepsTo hm).globals

/-- A reader among others goes through what a session goes through that is the same to it. -/
theorem told_eq (h : a.Apart rs home) (hmoves : ∀ m ∈ moves, m.StaysIn rs home) {r : Nat}
    (hr : r ∈ rs) {s : Session} (hs : Session.SameFrom (home r) (a.session r) s) :
    a.told r moves = s.told (actionsOf r moves) ∧
      Session.SameFrom (home r) ((a.after moves).session r) (s.after (actionsOf r moves)) := by
  induction moves generalizing a s with
  | nil => exact ⟨rfl, hs⟩
  | cons m rest ih =>
    obtain ⟨hm, hrest⟩ := List.forall_mem_cons.mp hmoves
    by_cases hself : m.reader = r
    · subst hself
      obtain ⟨hreply, hnext⟩ := hs.run (h.isAt _ hr) hm.2
      rw [← session_move_self] at hnext
      obtain ⟨htold, hafter⟩ := ih (h.move hm) hrest hnext
      have hactions : actionsOf m.reader (m :: rest) = m.action :: actionsOf m.reader rest := by
        simp [actionsOf]
      rw [hactions, told, if_pos rfl, hreply, htold]
      exact ⟨rfl, hafter⟩
    · have hactions : actionsOf r (m :: rest) = actionsOf r rest := by simp [actionsOf, hself]
      rw [hactions, told, if_neg hself]
      exact ih (h.move hm) hrest ((h.sameFrom_move hm hr (Ne.symm hself)).trans hs)

end Apart

/-- Readers in trees of their own that leave the shared variables alone: in whatever order they take
their turns, each is told what it is told alone, and comes to rest and leaves its tree as it does
then. The shared variables stay as they are. -/
theorem told_apart (h : a.Apart rs home) (hmoves : ∀ m ∈ moves, m.StaysIn rs home) :
    (∀ r ∈ rs,
      let alone := (a.session r).after (actionsOf r moves)
      a.told r moves = (a.session r).told (actionsOf r moves) ∧
      (a.after moves).readers r = alone.reader ∧
      (a.after moves).library.tree? (home r) = alone.library.tree? (home r)) ∧
    (a.after moves).library.globals = a.library.globals := by
  refine ⟨fun r hr => ?_, h.globals_after hmoves⟩
  obtain ⟨htold, hafter⟩ := h.told_eq hmoves hr (.refl (home r) (a.session r))
  exact ⟨htold, hafter.reader, hafter.tree⟩

/-- A place where whoever passes pays a toll. The sum is local to the tree, the toll is shared. -/
def crossing (name : String) : Document where
  name := name
  declared := [{ name := "paid" }]
  nodes := [
    ⟨0, .info { name := "Keeper" }, [], []⟩,
    ⟨1, .start 0, [], [⟨2, 0⟩]⟩,
    ⟨2, .edit .int .add { int := 1 }, [⟨1, 0⟩, ⟨3, 1⟩, ⟨4, 2⟩], [⟨5, 0⟩, ⟨6, 1⟩]⟩,
    ⟨3, .variable 0 .int false, [], [⟨2, 1⟩]⟩,
    ⟨4, .variable 0 .int true, [], [⟨2, 2⟩]⟩,
    ⟨5, .dialogue "You may pass." none, [⟨2, 0⟩], [⟨6, 0⟩]⟩,
    ⟨6, .finish, [⟨5, 0⟩, ⟨2, 1⟩], []⟩]

/-- Readers of two such places. -/
def crossingReaders : Audience :=
  { library := ⟨[.ofDocument (crossing "bridge"), .ofDocument (crossing "gate")],
      ⟨[{ name := "toll", slots := { int := 3 } }]⟩⟩ }

/-- Two readers come and go in turns. -/
def crossingTurns : List Move :=
  [⟨0, .load 0 none⟩, ⟨1, .load 1 none⟩, ⟨0, .call .output⟩,
    ⟨1, .call (.changeSpeaker { name := "Guard" })⟩, ⟨0, .call .advance⟩, ⟨1, .unload⟩,
    ⟨0, .call (.getVariable "paid" .int)⟩]

/-- The reader on the bridge hears nothing of the one at the gate. -/
theorem told_crossingTurns :
    crossingReaders.Apart [0, 1] id ∧ (∀ m ∈ crossingTurns, m.StaysIn [0, 1] id) ∧
    crossingReaders.told 0 crossingTurns = (crossingReaders.session 0).told
      [.load 0 none, .call .output, .call .advance, .call (.getVariable "paid" .int)] ∧
    (crossingReaders.after crossingTurns).library.globals = crossingReaders.library.globals := by
  have hplaces : ∀ r ∈ [0, 1], (crossingReaders.session r).SparesShared (id r) := by
    intro r hr d hd
    simp only [List.mem_cons, List.not_mem_nil, or_false] at hr
    rcases hr with rfl | rfl <;> cases hd <;> decide
  have hapart : crossingReaders.Apart [0, 1] id :=
    ⟨fun _ _ _ _ hne => hne, fun r _ => Reader.isAt_of_idle rfl _, hplaces⟩
  have hturns : ∀ m ∈ crossingTurns, m.StaysIn [0, 1] id := by
    simp [crossingTurns, Move.StaysIn, Action.StaysAt]
  obtain ⟨htold, hglobals⟩ := told_apart hapart hturns
  exact ⟨hapart, hturns, (htold 0 (by decide)).1, hglobals⟩

end Audience

end DialogueTree
