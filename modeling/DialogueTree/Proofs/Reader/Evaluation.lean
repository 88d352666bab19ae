import DialogueTree.Proofs.Reader.Walk

/-!
# Evaluation

What a node that computes does to the variables, and why it cannot be evaluated. All that it can
change is the `Memory` of a scene: the variables and the default way in. A change of a variable
writes one slot, a change of the way in writes a number, and a comparison writes nothing; where
evaluation fails nothing has been written.

Results:
* `Memory.names_after`: writes leave the names of the variables alone.
* `Scene.solve_spec`: evaluation makes the one write of its node.
* `Scene.makes_of_write?`: which node makes a write.
* `Scene.unsolved_of_solve`: why evaluation fails.
-/

namespace DialogueTree

/-! ## Memory -/

/-- What a walk can write to: the variables and the default way in. -/
structure Memory where
  locals : Store
  globals : Store
  defaultStart : Int32
  deriving DecidableEq

/-- One change of the memory: a value for the slot of its type in the variable at a position of
the local or the global store, or another default way in. -/
inductive Write where
  | slot (isGlobal : Bool) (position : Nat) (value : Value)
  | start (id : Int32)
  deriving DecidableEq

namespace Memory

/-- The names of the local and of the global variables, in order. -/
def names (m : Memory) : List String × List String := (m.locals.names, m.globals.names)

/-- The memory after a write. A position that no variable has is left out. -/
def apply (m : Memory) : Write → Memory
  | .slot true position v =>
    { m with globals := ⟨m.globals.toList.modify position (·.assign v)⟩ }
  | .slot false position v =>
    { m with locals := ⟨m.locals.toList.modify position (·.assign v)⟩ }
  | .start id => { m with defaultStart := id }

/-- The memory after some writes, one after another. -/
def after (m : Memory) (writes : List Write) : Memory := writes.foldl apply m

@[simp] theorem after_nil (m : Memory) : m.after [] = m := rfl

theorem after_append (m : Memory) (ws ws' : List Write) :
    m.after (ws ++ ws') = (m.after ws).after ws' := by
  simp [after]

end Memory

theorem Store.names_modify (s : Store) (i : Nat) (v : Value) :
    names ⟨s.toList.modify i (·.assign v)⟩ = s.names := by
  unfold names
  apply List.ext_getElem?
  intro j
  simp only [List.getElem?_map, List.getElem?_modify]
  split
  · cases s.toList[j]? <;> rfl
  · simp

namespace Memory

theorem names_apply (m : Memory) (w : Write) : (m.apply w).names = m.names := by
  cases w with
  | start => rfl
  | slot isGlobal position v => cases isGlobal <;> simp [apply, names, Store.names_modify]

/-- Writes leave the names, the number and the order of the variables alone. -/
theorem names_after (m : Memory) (writes : List Write) : (m.after writes).names = m.names := by
  induction writes generalizing m with
  | nil => rfl
  | cons w rest ih => exact (ih (m.apply w)).trans (m.names_apply w)

end Memory

namespace Scene

variable {s after : Scene} {d : Document} {n : Node} {e : ReaderError}

/-- What a scene remembers. -/
def memory (s : Scene) : Memory := ⟨s.locals, s.globals, s.defaultStart⟩

/-- A scene with another memory. -/
def withMemory (s : Scene) (m : Memory) : Scene :=
  { s with locals := m.locals, globals := m.globals, defaultStart := m.defaultStart }

@[simp] theorem memory_withMemory (s : Scene) (m : Memory) : (s.withMemory m).memory = m := rfl

@[simp] theorem withMemory_memory (s : Scene) : s.withMemory s.memory = s := rfl

@[simp] theorem memory_revert (s : Scene) : s.revert.memory = s.memory := by
  unfold revert
  split <;> rfl

@[simp] theorem memory_override (s : Scene) (speaker : Option Speaker) :
    (s.override speaker).memory = s.memory := by
  cases speaker <;> rfl

@[simp] theorem memory_announce (s : Scene) (speaker : Speaker) :
    (s.announce speaker).memory = s.memory := rfl

/-! ## The write of a node -/

/-- What a node writes when it is evaluated in a scene: the outcome of its change to the variable
that is wired to its first operand, or its way in. -/
def write? (s : Scene) (d : Document) (n : Node) : Option Write :=
  match n.content with
  | .edit type c b => do
    let target ← (← (d.wired n operandSlotA).toOption)
    let operand ← (s.operand d n operandSlotB type b).toOption
    let current ← (s.read target type).toOption
    match c.apply current operand with
    | .updated v => some (.slot target.isGlobal target.position v)
    | _ => none
  | .startChange id => some (.start id)
  | _ => none

theorem read_eq_of_memory {s s' : Scene} (h : s.memory = s'.memory) (r : Reference)
    (type : ValueType) : s.read r type = s'.read r type := by
  have hlocals : s.locals = s'.locals := congrArg Memory.locals h
  have hglobals : s.globals = s'.globals := congrArg Memory.globals h
  simp only [read, store, hlocals, hglobals]

/-- What a node writes depends on the memory of the scene, not on who speaks. -/
theorem write?_eq_of_memory {s s' : Scene} (h : s.memory = s'.memory) (d : Document) (n : Node) :
    s.write? d n = s'.write? d n := by
  simp only [write?, operand, read_eq_of_memory h]

/-- A variable that can be read can be written to. -/
theorem write_of_read {r : Reference} {type : ValueType} {current : Value}
    (h : s.read r type = .ok current) (v : Value) :
    s.write r v = .ok (s.withMemory (s.memory.apply (.slot r.isGlobal r.position v))) := by
  have hlt : r.position < (s.store r.isGlobal).toList.length := by
    unfold read at h
    split at h
    next hat => exact (List.getElem?_eq_some_iff.mp hat).1
    next => cases h
  unfold write Store.assignAt?
  rw [if_pos hlt]
  cases hg : r.isGlobal <;> rfl

/-- A change of a variable makes the write of its node, if it has one to make. -/
theorem edit_spec {type : ValueType} {c : Change} {b : Slots} (hc : n.content = .edit type c b) :
    match s.edit d n type c b with
    | .ok (some after) => ∃ w, s.write? d n = some w ∧ after = s.withMemory (s.memory.apply w)
    | _ => s.write? d n = none := by
  simp only [write?, hc, edit]
  rcases d.wired n operandSlotA with e | _ | target
  · rfl
  · rfl
  simp only [Outcome.bind_ok, Outcome.toOption_ok, Option.bind_eq_bind, Option.bind_some]
  rcases s.operand d n operandSlotB type b with e | operand
  · rfl
  simp only [Outcome.bind_ok, Outcome.toOption_ok, Option.bind_some]
  rcases hread : s.read target type with e | current
  · rfl
  simp only [Outcome.bind_ok, Outcome.toOption_ok, Option.bind_some]
  rcases c.apply current operand with v | _ | _
  · simp only [write_of_read hread v, Outcome.map_ok]
    exact ⟨_, rfl, rfl⟩
  · rfl
  · rfl

/-- Evaluation makes the write of the node, and nothing else. Where it fails, there was nothing to
write. -/
theorem solve_spec (s : Scene) (d : Document) (n : Node) :
    match s.solve d n with
    | .ok (after, _) => after = s.withMemory (s.memory.after (s.write? d n).toList)
    | .error _ => s.write? d n = none := by
  cases hc : n.content with
  | logic type c a b =>
    simp only [solve, write?, hc]
    rcases s.logic d n type c a b with e | passed
    · trivial
    · rfl
  | edit type c b =>
    have hedit := edit_spec (s := s) (d := d) hc
    simp only [solve, hc]
    rcases hresult : s.edit d n type c b with e | _ | after <;> rw [hresult] at hedit
    · exact hedit
    · rw [hedit]
      rfl
    · obtain ⟨w, hw, rfl⟩ := hedit
      rw [hw]
      rfl
  | startChange id =>
    simp only [solve, write?, hc]
    rfl
  | _ => simp only [solve, write?, hc]

/-! ## Which node writes -/

theorem type_of_read {r : Reference} {type : ValueType} {v : Value} (h : s.read r type = .ok v) :
    v.type = type := by
  unfold read at h
  split at h
  next x _ =>
    cases h
    exact Slots.type_get ..
  next => cases h

end Scene

theorem Change.type_of_apply {c : Change} {a b v : Value} (h : c.apply a b = .updated v) :
    v.type = a.type := by
  unfold apply at h
  split at h
  · cases h; rfl
  · split at h <;> cases h; rfl
  · cases h; rfl
  · split at h <;> cases h; rfl
  · cases h

namespace Document

variable {d : Document} {n : Node}

theorem wired_eq_some {slot : Nat} {r : Reference} (h : d.wired n slot = .ok (some r)) :
    n.inputAt? slot = some r.node ∧ ∃ m declared, d.node? r.node = some m ∧
      m.content = .variable r.position declared r.isGlobal := by
  unfold wired at h
  split at h
  next => cases h
  next source hsource =>
    split at h
    next => cases h
    next m hm =>
      split at h
      next position declared isGlobal hc =>
        cases h
        exact ⟨hsource, m, declared, nodeAt_eq_ok.mp hm, hc⟩
      next => cases h

/-- The writes that a node can make: a change of a variable writes a value of its type to the
variable that it is wired to. What type the variable node declares does not matter. -/
inductive Makes (d : Document) (n : Node) : Write → Prop
  | slot {change : Change} {literal : Slots} {source i : Nat} {m : Node} {declared : ValueType}
      {isGlobal : Bool} {v : Value} : n.content = .edit v.type change literal →
      n.inputAt? operandSlotA = some source → d.node? source = some m →
      m.content = .variable i declared isGlobal → Makes d n (.slot isGlobal i v)
  | start {id : Int32} : n.content = .startChange id → Makes d n (.start id)

end Document

namespace Scene

variable {s : Scene} {d : Document} {n : Node} {e : ReaderError}

theorem makes_of_write? {w : Write} (h : s.write? d n = some w) : d.Makes n w := by
  unfold write? at h
  split at h
  next type change literal hc =>
    obtain ⟨target?, htarget?, h⟩ := Option.bind_eq_some_iff.mp h
    obtain ⟨target, htarget, h⟩ := Option.bind_eq_some_iff.mp h
    obtain ⟨operand, -, h⟩ := Option.bind_eq_some_iff.mp h
    obtain ⟨current, hcurrent, h⟩ := Option.bind_eq_some_iff.mp h
    split at h
    next v hupdated =>
      cases h
      cases htarget
      obtain ⟨hsource, m, declared, hm, hvariable⟩ :=
        Document.wired_eq_some (Outcome.toOption_eq_some.mp htarget?)
      have htype : v.type = type :=
        (Change.type_of_apply hupdated).trans (type_of_read (Outcome.toOption_eq_some.mp hcurrent))
      exact .slot (by rw [htype]; exact hc) hsource hm hvariable
    next => cases h
  next hc =>
    cases h
    exact .start hc
  next => cases h

/-! ## Why evaluation fails -/

/-- Why a node cannot be evaluated: it does not compute, an operand is wired to no node or to one
that is no variable, a variable does not exist, or an integer is divided by zero. -/
inductive Unsolved (d : Document) (n : Node) : ReaderError → Prop
  | notLogic : n.content.computes = false → Unsolved d n (.notLogic n.index n.content)
  | missing {slot source : Nat} : n.inputAt? slot = some source → d.node? source = none →
      Unsolved d n (.missingNode source d.name d.nodes.length)
  | operand (slot : Nat) (content : Content) :
      Unsolved d n (.operandNotVariable slot n.index content)
  | reference (r : Reference) : Unsolved d n r.error
  | division : Unsolved d n (.divisionByZero n.index)

theorem unsolved_of_wired {slot : Nat} (h : d.wired n slot = .error e) : Unsolved d n e := by
  unfold Document.wired at h
  split at h
  next => cases h
  next source hsource =>
    split at h
    next hat =>
      cases h
      obtain ⟨hmissing, rfl⟩ := Document.nodeAt_eq_error.mp hat
      exact .missing hsource hmissing
    next =>
      split at h
      next => cases h
      next =>
        cases h
        exact .operand slot _

theorem unsolved_of_read {r : Reference} {type : ValueType} (h : s.read r type = .error e) :
    Unsolved d n e := by
  unfold read at h
  split at h
  next => cases h
  next =>
    cases h
    exact .reference r

theorem unsolved_of_operand {slot : Nat} {type : ValueType} {literal : Slots}
    (h : s.operand d n slot type literal = .error e) : Unsolved d n e := by
  rcases Outcome.bind_eq_error.mp h with hwired | ⟨wired, -, h⟩
  · exact unsolved_of_wired hwired
  · cases wired with
    | none => cases h
    | some r => exact unsolved_of_read h

theorem unsolved_of_logic {type : ValueType} {c : Comparison} {a b : Slots}
    (h : s.logic d n type c a b = .error e) : Unsolved d n e := by
  rcases Outcome.bind_eq_error.mp h with ha | ⟨left, -, h⟩
  · exact unsolved_of_operand ha
  rcases Outcome.bind_eq_error.mp h with hb | ⟨right, -, h⟩
  · exact unsolved_of_operand hb
  · cases h

theorem unsolved_of_edit {type : ValueType} {c : Change} {b : Slots}
    (h : s.edit d n type c b = .error e) : Unsolved d n e := by
  rcases Outcome.bind_eq_error.mp h with hwired | ⟨wired, -, h⟩
  · exact unsolved_of_wired hwired
  cases wired with
  | none => cases h
  | some target =>
    rcases Outcome.bind_eq_error.mp h with hb | ⟨operand, -, h⟩
    · exact unsolved_of_operand hb
    rcases Outcome.bind_eq_error.mp h with hr | ⟨current, hread, h⟩
    · exact unsolved_of_read hr
    split at h
    next v _ =>
      rw [write_of_read hread v] at h
      cases h
    next => cases h
    next =>
      cases h
      exact .division

theorem unsolved_of_solve (h : s.solve d n = .error e) : Unsolved d n e := by
  cases hc : n.content with
  | logic =>
    rw [solve, hc] at h
    rcases Outcome.bind_eq_error.mp h with hlogic | ⟨passed, -, h⟩
    · exact unsolved_of_logic hlogic
    · cases h
  | edit =>
    rw [solve, hc] at h
    rcases Outcome.bind_eq_error.mp h with hedit | ⟨edited, -, h⟩
    · exact unsolved_of_edit hedit
    · cases edited <;> cases h
  | startChange =>
    rw [solve, hc] at h
    cases h
  | _ =>
    have hsolve : s.solve d n = .error (.notLogic n.index n.content) := by simp only [solve, hc]
    rw [hsolve] at h
    cases h
    exact .notLogic (by rw [hc]; rfl)

end Scene

end DialogueTree
