import DialogueTree.Proofs.Reader.Rollback
import DialogueTree.Proofs.Reader.TreeVoice

/-!
# What a walk may change

A walk writes to slots of variables and to the default way in, at the nodes that it visits and
nowhere else. So the variables keep their names and their order; where a slot has changed there is
a visited change of a variable to blame, one of the type of the slot that is wired to a variable
node with the position and the store of the variable; and the way in is the one that was named last.
What other trees hold stays as it is. All this holds of walks that come to rest and of those that
fail, since both leave their writes behind.

Results:
* `Memory.exists_of_slot?_after`: a slot that has changed has been written to.
* `Document.edits_of_mem_writes`: which nodes write to a slot.
* `Session.frame`: what is left of an action that walks.
-/

namespace DialogueTree

/-! ## Slots and writes -/

/-- The value in the slot of a type of the variable at a position. -/
def Store.slot? (s : Store) (i : Nat) (type : ValueType) : Option Value :=
  (s.at? i).map (·.value type)

/-- Only the slot of its type changes where a value is written. -/
theorem Store.slot?_modify {s : Store} {i j : Nat} {v : Value} {type : ValueType}
    (h : slot? ⟨s.toList.modify j (·.assign v)⟩ i type ≠ s.slot? i type) :
    j = i ∧ v.type = type := by
  by_cases hother : j = i ∧ v.type = type
  · exact hother
  refine absurd ?_ h
  rw [slot?, slot?, at?, at?, List.getElem?_modify, Option.map_eq_map, Option.map_map]
  congr 1
  funext x
  by_cases hj : j = i
  · have htype : type ≠ v.type := fun heq => hother ⟨hj, heq.symm⟩
    simp [hj, Variable.value, Variable.assign, Slots.get_set_of_ne _ htype]
  · simp [hj]

/-- The way in that a write names. -/
def Write.start? : Write → Option Int32
  | slot .. => none
  | start id => some id

namespace Memory

variable {m : Memory} {isGlobal : Bool} {i : Nat} {type : ValueType}

/-- The variables of the tree, or those that all trees share. -/
def store (m : Memory) (isGlobal : Bool) : Store := if isGlobal then m.globals else m.locals

theorem eq_of_slot?_apply {w : Write}
    (h : ((m.apply w).store isGlobal).slot? i type ≠ (m.store isGlobal).slot? i type) :
    ∃ v, w = .slot isGlobal i v ∧ v.type = type := by
  cases w with
  | start id => exact absurd rfl h
  | slot wGlobal j v =>
    cases isGlobal <;> cases wGlobal
    · obtain ⟨rfl, htype⟩ := Store.slot?_modify (s := m.locals) h
      exact ⟨v, rfl, htype⟩
    · exact absurd rfl h
    · exact absurd rfl h
    · obtain ⟨rfl, htype⟩ := Store.slot?_modify (s := m.globals) h
      exact ⟨v, rfl, htype⟩

/-- A slot that has changed has been written to. -/
theorem exists_of_slot?_after {ws : List Write}
    (h : ((m.after ws).store isGlobal).slot? i type ≠ (m.store isGlobal).slot? i type) :
    ∃ v, .slot isGlobal i v ∈ ws ∧ v.type = type := by
  induction ws generalizing m with
  | nil => exact absurd rfl h
  | cons w ws ih =>
    by_cases hw : ((m.apply w).store isGlobal).slot? i type = (m.store isGlobal).slot? i type
    · rw [← hw] at h
      obtain ⟨v, hv, htype⟩ := ih h
      exact ⟨v, List.mem_cons_of_mem _ hv, htype⟩
    · obtain ⟨v, rfl, htype⟩ := eq_of_slot?_apply hw
      exact ⟨v, List.mem_cons_self, htype⟩

/-- The way in after some writes is the last one that they name. -/
theorem defaultStart_after (m : Memory) (ws : List Write) :
    (m.after ws).defaultStart = (ws.filterMap Write.start?).getLast?.getD m.defaultStart := by
  induction ws generalizing m with
  | nil => rfl
  | cons w ws ih =>
    have hrest := ih (m.apply w)
    cases w with
    | start id =>
      rw [List.filterMap_cons_some (f := Write.start?) rfl, List.getLast?_cons]
      exact hrest
    | slot wGlobal j v =>
      rw [List.filterMap_cons_none rfl]
      cases wGlobal <;> exact hrest

end Memory

/-! ## The writes of visited nodes -/

/-- The way in that a node names. -/
def Content.start? : Content → Option Int32
  | .startChange id => some id
  | _ => none

namespace Scene

variable {s : Scene} {d : Document} {n : Node}

/-- What a node writes to the way in is what it names. -/
theorem start?_write? (s : Scene) (d : Document) (n : Node) :
    (s.write? d n).bind Write.start? = n.content.start? := by
  cases hw : s.write? d n with
  | none => cases hc : n.content <;> simp_all [write?, Content.start?]
  | some w =>
    cases makes_of_write? hw with
    | slot hc =>
      rw [hc]
      rfl
    | start hc =>
      rw [hc]
      rfl

end Scene

namespace Document

variable {d : Document} {vs : List Visit}

/-- Whether one of some visits is a change of a variable of a type, wired to a variable node that
stands for a position of the local or the global store. -/
def Edits (d : Document) (vs : List Visit) (isGlobal : Bool) (i : Nat) (type : ValueType) : Prop :=
  ∃ v ∈ vs, ∃ n change literal source m declared,
    d.node? v.position = some n ∧ n.content = .edit type change literal ∧
    n.inputAt? operandSlotA = some source ∧ d.node? source = some m ∧
    m.content = .variable i declared isGlobal

/-- The last way in that is named at one of some visits. -/
def start? (d : Document) (vs : List Visit) : Option Int32 :=
  (vs.filterMap fun v => (d.node? v.position).bind (·.content.start?)).getLast?

/-- A slot that has been written to at some visits, is one that they are wired to. -/
theorem edits_of_mem_writes {isGlobal : Bool} {i : Nat} {v : Value}
    (h : .slot isGlobal i v ∈ d.writes vs) : d.Edits vs isGlobal i v.type := by
  obtain ⟨visit, hvisit, n, hn, -, hw⟩ := exists_visit_of_mem_writes h
  cases Scene.makes_of_write? hw with
  | slot hc hsource hm hvariable =>
    exact ⟨visit, hvisit, n, _, _, _, _, _, hn, hc, hsource, hm, hvariable⟩

/-- The last way in that some visits write is the last one that their nodes name. -/
theorem getLast?_start?_writes (d : Document) (vs : List Visit) :
    ((d.writes vs).filterMap Write.start?).getLast? = d.start? vs := by
  rw [writes, List.filterMap_filterMap, start?]
  congr 2
  funext v
  rw [writeAt?, Option.bind_assoc]
  congr 1
  funext n
  exact Scene.start?_write? _ _ _

/-- The memory after the writes of some visits. -/
structure Leaves (d : Document) (vs : List Visit) (m after : Memory) : Prop where
  names : after.names = m.names
  slots (isGlobal : Bool) (i : Nat) (type : ValueType) :
    (after.store isGlobal).slot? i type ≠ (m.store isGlobal).slot? i type →
    d.Edits vs isGlobal i type
  start : after.defaultStart = (d.start? vs).getD m.defaultStart

theorem leaves_after (d : Document) (vs : List Visit) (m : Memory) :
    d.Leaves vs m (m.after (d.writes vs)) where
  names := m.names_after _
  slots isGlobal i type h := by
    obtain ⟨v, hv, rfl⟩ := Memory.exists_of_slot?_after h
    exact edits_of_mem_writes hv
  start := by rw [m.defaultStart_after, getLast?_start?_writes]

/-- A walk makes its writes whether it comes to rest or fails. -/
theorem leaves_settle (d : Document) (cursor : Nat) (s : Scene) (first : Nat) :
    d.Leaves (d.visits hopLimit s first) s.memory (d.settle cursor s first).2.memory := by
  have hmemory :
      (d.settle cursor s first).2.memory = (d.walk cursor hopLimit s first).2.memory := by
    unfold settle
    split
    next h => rw [h]
    next h => rw [h]; rfl
  rw [hmemory, memory_walk]
  exact d.leaves_after _ _

end Document

/-! ## Actions -/

namespace Session

variable {s s' s'' : Session} {p : Place} {t : Tree} {i j : Nat} {w : Pass}

/-- The memory of the tree at a position: its own variables, those that all trees share, and its
way in. -/
def memory? (s : Session) (i : Nat) : Option Memory :=
  (s.library.tree? i).map fun t => ⟨t.locals, s.library.globals, t.defaultStart⟩

/-- Whether sessions hold the same variables and ways in. -/
structure Remembers (s s' : Session) : Prop where
  globals : s'.library.globals = s.library.globals
  memory (i : Nat) : s'.memory? i = s.memory? i

/-- Whether what one session holds is what is left of another one after some visits in a tree. -/
structure Marks (s s' : Session) (j : Nat) (d : Document) (vs : List Document.Visit) : Prop where
  here : ∃ m after, s.memory? j = some m ∧ s'.memory? j = some after ∧ d.Leaves vs m after
  elsewhere : ∀ i, i ≠ j →
    s'.memory? i = (s.memory? i).map fun m => { m with globals := s'.library.globals }

theorem remembers_unload (s : Session) : s.Remembers s.unload := by
  unfold unload
  dsimp only
  split
  next tree _ speaker _ =>
    refine ⟨rfl, fun i => ?_⟩
    rw [memory?, memory?, Library.tree?_modifyTree]
    by_cases hi : tree = i
    · rw [if_pos hi, Option.map_map]
      rfl
    · rw [if_neg hi]
      rfl
  next => exact ⟨rfl, fun _ => rfl⟩

theorem Remembers.marks {d : Document} {vs : List Document.Visit} (h : s.Remembers s')
    (hmarks : s'.Marks s'' j d vs) : s.Marks s'' j d vs where
  here := by
    rw [← h.memory]
    exact hmarks.here
  elsewhere i hi := by
    rw [← h.memory]
    exact hmarks.elsewhere i hi

theorem Marks.remembers {d : Document} {vs : List Document.Visit} (hmarks : s.Marks s' j d vs)
    (h : s'.Remembers s'') : s.Marks s'' j d vs where
  here := by
    obtain ⟨m, after, hm, hafter, hleaves⟩ := hmarks.here
    exact ⟨m, after, hm, (h.memory j).trans hafter, hleaves⟩
  elsewhere i hi := by
    rw [h.memory, h.globals]
    exact hmarks.elsewhere i hi

theorem marks_withScene {d : Document} {vs : List Document.Visit} {after : Scene} (cursor : Nat)
    (htree : s.library.tree? j = some t)
    (h : d.Leaves vs ⟨t.locals, s.library.globals, t.defaultStart⟩ after.memory) :
    s.Marks (s.withScene j cursor after) j d vs where
  here := by
    refine ⟨_, after.memory, ?_, ?_, h⟩
    · rw [memory?, htree]
      rfl
    · have hafter : (s.withScene j cursor after).library.tree? j = (s.library.tree? j).map _ :=
        s.library.tree?_modifyTree_self j _
      rw [memory?, hafter, htree]
      rfl
  elsewhere i hi := by
    rw [memory?, s.tree?_withScene_of_ne (Ne.symm hi), memory?, Option.map_map]
    rfl

/-- A walk in a session leaves its writes in the tree and in the variables that all trees share. -/
theorem marks_settle (hl : s.loaded? = some (p, t)) (first : Nat) :
    s.Marks (s.settle p t first).2 p.tree t.document
      (t.document.visits hopLimit (s.scene p t) first) := by
  obtain ⟨-, htree⟩ := loaded?_eq_some.mp hl
  have hleaves := t.document.leaves_settle p.cursor (s.scene p t) first
  unfold settle
  split
  next r after h =>
    rw [h] at hleaves
    exact marks_withScene r.cursor htree hleaves
  next e after h =>
    rw [h] at hleaves
    exact marks_withScene p.cursor htree hleaves

end Session

/-- Whether an action sets out on a walk. -/
def Action.Travels : Action → Prop
  | load .. | call .advance | call (.choose _) => True
  | _ => False

namespace Session

variable {s s' : Session} {a : Action} {j : Nat}

theorem Follows.marks {r : Except ReaderError NodeType × Session} (h : s.Follows a r)
    (hground : s.ground? a = s.reader.place.map (·.tree)) :
    (s.pass? a = none ∧ s.Remembers r.2) ∨
    ∃ w j, s.pass? a = some w ∧ s.ground? a = some j ∧ s.Marks r.2 j w.document w.visits := by
  cases h with
  | stays hpass => exact .inl ⟨hpass, rfl, fun _ => rfl⟩
  | walks hl hpass hw =>
    rename_i p t w
    have hplace : s.ground? a = some p.tree := by
      rw [hground, (loaded?_eq_some.mp hl).1]
      rfl
    refine .inr ⟨w, p.tree, hpass, hplace, ?_⟩
    unfold Pass.visits Pass.document
    rw [hw]
    exact marks_settle hl w.first

theorem remembers_entering (s : Session) (tree startNode : Nat) :
    s.Remembers (s.entering tree startNode) :=
  ⟨s.remembers_unload.globals, s.remembers_unload.memory⟩

theorem Enters.marks {tree : Nat} {r : Except ReaderError LoadReport × Session}
    (h : s.Enters a tree r) :
    (s.pass? a = none ∧ s.Remembers r.2) ∨
    ∃ w, s.pass? a = some w ∧ s.Marks r.2 tree w.document w.visits := by
  cases h with
  | stays hpass => exact .inl ⟨hpass, s.remembers_unload⟩
  | rests hl hpass hw hsettle =>
    rename_i startNode t w report after
    have hmarks := marks_settle hl w.first
    rw [hsettle] at hmarks
    refine .inr ⟨w, hpass, ?_⟩
    unfold Pass.visits Pass.document
    rw [hw]
    exact (s.remembers_entering tree startNode).marks hmarks
  | fails hl hpass hw hsettle =>
    rename_i startNode t w e after
    have hmarks := marks_settle hl w.first
    rw [hsettle] at hmarks
    refine .inr ⟨w, hpass, ?_⟩
    unfold Pass.visits Pass.document
    rw [hw]
    exact ((s.remembers_entering tree startNode).marks hmarks).remembers after.remembers_unload

/-- An action that sets out on a walk leaves all memory alone, or it leaves the writes of its
visits. -/
theorem marks_run (ha : a.Travels) :
    (s.pass? a = none ∧ s.Remembers (a.run s).2) ∨
    ∃ w j, s.pass? a = some w ∧ s.ground? a = some j ∧
      s.Marks (a.run s).2 j w.document w.visits := by
  cases a with
  | load tree start =>
    exact (s.enters_load tree start).marks.imp_right fun ⟨w, hpass, hmarks⟩ =>
      ⟨w, tree, hpass, rfl, hmarks⟩
  | unload | resume => cases ha
  | call c =>
    cases c with
    | advance => exact s.follows_advance.marks rfl
    | choose choice => exact (s.follows_choose choice).marks rfl
    | _ => cases ha

/-- Whether a change of a variable of a type, wired to a position of the local or the global store,
is visited on the walk of an action. -/
def Edits (s : Session) (a : Action) (isGlobal : Bool) (i : Nat) (type : ValueType) : Prop :=
  ∃ w, s.pass? a = some w ∧ w.document.Edits w.visits isGlobal i type

/-- The way in that is named last on the walk of an action through the tree at a position. -/
def start? (s : Session) (a : Action) (j : Nat) : Option Int32 :=
  (s.pass? a).bind fun w => if s.ground? a = some j then w.document.start? w.visits else none

theorem memory?_eq_some {m : Memory} : s.memory? j = some m ↔
    ∃ t, s.library.tree? j = some t ∧ ⟨t.locals, s.library.globals, t.defaultStart⟩ = m :=
  Option.map_eq_some_iff

/-- What a tree holds of its own stays where its memory differs in the shared variables at most. -/
theorem rel_of_memory? {R : Tree → Tree → Prop}
    (h : (s'.memory? j).map (fun m => (m.locals, m.defaultStart)) =
      (s.memory? j).map fun m => (m.locals, m.defaultStart))
    (hR : ∀ t u, u.locals = t.locals → u.defaultStart = t.defaultStart → R t u) :
    Option.Rel R (s.library.tree? j) (s'.library.tree? j) := by
  rw [memory?, memory?, Option.map_map, Option.map_map] at h
  cases ht : s.library.tree? j with
  | none =>
    rw [ht] at h
    rw [Option.map_eq_none_iff.mp h]
    exact .none
  | some t =>
    rw [ht] at h
    obtain ⟨u, hu, hsame⟩ := Option.map_eq_some_iff.mp h
    obtain ⟨hlocals, hstart⟩ := Prod.mk.inj hsame
    rw [hu]
    exact .some (hR t u hlocals hstart)

/-- Loading a tree, going on and answering, whether they succeed or fail, leave the names and the
order of all variables alone. A slot of a variable that has changed is one of the type of a change
that was visited and that is wired to the position and the store of the variable; of the trees only
the one that was walked in has such slots. Its way in is the one that was named last, if any was,
and the ways into all other trees stay as they are. -/
theorem frame (s : Session) {a : Action} (ha : a.Travels) :
    let before := s.library
    let after := (a.run s).2.library
    after.globals.names = before.globals.names ∧
    (∀ i type, after.globals.slot? i type ≠ before.globals.slot? i type →
      s.Edits a true i type) ∧
    ∀ j, Option.Rel (fun t u : Tree =>
      u.locals.names = t.locals.names ∧
      (∀ i type, u.locals.slot? i type ≠ t.locals.slot? i type →
        s.ground? a = some j ∧ s.Edits a false i type) ∧
      u.defaultStart = (s.start? a j).getD t.defaultStart) (before.tree? j) (after.tree? j) := by
  intro before after
  rcases marks_run (s := s) ha with ⟨hpass, hsame⟩ | ⟨w, ground, hpass, hground, hmarks⟩
  · have hglobals : after.globals = before.globals := hsame.globals
    rw [hglobals]
    refine ⟨rfl, fun i type h => absurd rfl h, fun j => ?_⟩
    refine rel_of_memory? (congrArg _ (hsame.memory j)) fun t u hlocals hstart => ?_
    rw [hlocals, hstart, start?, hpass]
    exact ⟨rfl, fun i type h => absurd rfl h, rfl⟩
  · obtain ⟨m, m', hm, hm', hleaves⟩ := hmarks.here
    obtain ⟨t, ht, rfl⟩ := memory?_eq_some.mp hm
    obtain ⟨u, hu, rfl⟩ := memory?_eq_some.mp hm'
    obtain ⟨hlocals, hglobals⟩ := Prod.mk.inj hleaves.names
    refine ⟨hglobals, fun i type h => ⟨w, hpass, hleaves.slots true i type h⟩, fun j => ?_⟩
    by_cases hj : j = ground
    · subst hj
      rw [show before.tree? j = some t from ht, show after.tree? j = some u from hu]
      refine .some ⟨hlocals, fun i type h => ⟨hground, w, hpass, ?_⟩, ?_⟩
      · exact hleaves.slots false i type h
      · rw [start?, hpass, Option.bind_some, if_pos hground]
        exact hleaves.start
    · refine rel_of_memory? ?_ fun t u hlocals hstart => ?_
      · rw [hmarks.elsewhere j hj, Option.map_map]
        rfl
      · have hother : s.ground? a ≠ some j := by
          rw [hground]
          exact fun h => hj (Option.some.inj h).symm
        rw [hlocals, hstart, start?, hpass, Option.bind_some, if_neg hother]
        exact ⟨rfl, fun i type h => absurd rfl h, rfl⟩

/-- Going on from the guest's line counts a step and changes the way in before it fails. -/
theorem stumbling_frame :
    let t : Tree := { Tree.ofDocument .stumble with speaker := { name := "Guest" } }
    let u : Tree :=
      { t with locals := ⟨[{ name := "steps", slots := { int := 1 } }]⟩, defaultStart := 7 }
    Action.Travels (.call .advance) ∧
    stumbling.library.tree? 0 = some t ∧ stumbling.advance.2.library.tree? 0 = some u ∧
    u.locals.names = t.locals.names ∧ u.locals.slot? 0 .int ≠ t.locals.slot? 0 .int ∧
    stumbling.Edits (.call .advance) false 0 .int ∧
    stumbling.start? (.call .advance) 0 = some 7 := by
  intro t u
  have ht : stumbling.library.tree? 0 = some t := rfl
  have hu : (Action.run stumbling (.call .advance)).2.library.tree? 0 = some u := rfl
  have hslot : u.locals.slot? 0 .int ≠ t.locals.slot? 0 .int := by decide
  obtain ⟨-, -, htrees⟩ := frame stumbling (a := .call .advance) trivial
  have htree := htrees 0
  rw [ht, hu] at htree
  obtain ⟨hnames, hslots, -⟩ := Option.rel_some_some.mp htree
  exact ⟨trivial, ht, hu, hnames, hslot, (hslots 0 .int hslot).2, rfl⟩

end Session

end DialogueTree
