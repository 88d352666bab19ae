import DialogueTree.Proofs.Reader.Evaluation

/-!
# Operands

Where the operands of a node come from. A slot that nothing leads to leaves the literal; otherwise
the variable node in front of it says which variable is read, and it is read as the type of the
node that has the operand, not as the one that the variable node declares. There are three ways for
a slot to be broken: nothing is in front of it where an edge comes from, something that is no
variable node, or a variable node without a variable.

Results:
* `Document.wired_eq_ok_none`, `Document.wired_eq_ok_some`: when nothing is wired, and what is.
* `Scene.operand_eq_ok`, `Scene.operand_eq_error`: when an operand has which value, and when none.
* `Scene.wiring_cases`: a slot is free, broken or leads to a variable.
-/

namespace DialogueTree

/-- What an operand slot of a node refers to: the variable node in front of it, with the position
and the store that it names. The type that it declares does not matter. -/
structure Document.Refers (d : Document) (n : Node) (slot : Nat) (r : Reference) : Prop where
  source : n.inputAt? slot = some r.node
  names : ∃ m declared, d.node? r.node = some m ∧
    m.content = .variable r.position declared r.isGlobal

namespace Document

variable {d : Document} {n : Node} {slot : Nat} {r : Reference}

theorem wired_eq_ok_none : d.wired n slot = .ok none ↔ n.inputAt? slot = none := by
  constructor
  · intro h
    unfold wired at h
    split at h
    next hfree => exact hfree
    next =>
      split at h
      next => cases h
      next => split at h <;> cases h
  · intro h
    rw [wired, h]

theorem wired_eq_ok_some : d.wired n slot = .ok (some r) ↔ d.Refers n slot r := by
  constructor
  · intro h
    obtain ⟨hsource, hnames⟩ := wired_eq_some h
    exact ⟨hsource, hnames⟩
  · rintro ⟨hsource, m, declared, hm, hcontent⟩
    simp only [wired, hsource, nodeAt_eq_ok.mpr hm, hcontent]

end Document

namespace Scene

variable {s : Scene} {d : Document} {n : Node} {slot : Nat} {r : Reference} {x : Variable}
  {type : ValueType} {literal : Slots} {v : Value}

/-- The variable that is wired to an operand slot, with the reference that leads to it. -/
structure Wires (s : Scene) (d : Document) (n : Node) (slot : Nat) (r : Reference)
    (x : Variable) : Prop where
  refers : d.Refers n slot r
  exists_at : (s.store r.isGlobal).at? r.position = some x

/-- The value of an operand: the literal one if its slot is free, or else that of the variable
wired to it, read as the type of the node. -/
inductive Operand (s : Scene) (d : Document) (n : Node) (slot : Nat) (type : ValueType)
    (literal : Slots) : Value → Prop
  | literal : n.inputAt? slot = none → Operand s d n slot type literal (literal.get type)
  | wired {r : Reference} {x : Variable} :
      s.Wires d n slot r x → Operand s d n slot type literal (x.value type)

/-- An operand slot that has no value: it is wired to a node that is missing, to one that is no
variable node, or to one that names a position without a variable. -/
inductive Broken (s : Scene) (d : Document) (n : Node) (slot : Nat) : Prop
  | missingNode {source : Nat} : n.inputAt? slot = some source → d.node? source = none →
      Broken s d n slot
  | otherNode {source : Nat} {m : Node} : n.inputAt? slot = some source →
      d.node? source = some m → m.type ≠ .variable → Broken s d n slot
  | missingVariable {r : Reference} : d.Refers n slot r →
      (s.store r.isGlobal).at? r.position = none → Broken s d n slot

theorem Broken.inputAt?_ne_none (h : s.Broken d n slot) : n.inputAt? slot ≠ none := by
  cases h with
  | missingNode hsource | otherNode hsource => simp [hsource]
  | missingVariable hrefers => simp [hrefers.source]

theorem Wires.inputAt?_ne_none (h : s.Wires d n slot r x) : n.inputAt? slot ≠ none := by
  simp [h.refers.source]

/-- An operand has the type of its node, whatever it is wired to. -/
theorem Operand.type_eq (h : s.Operand d n slot type literal v) : v.type = type := by
  cases h with
  | literal | wired => exact Slots.type_get ..

/-! ## What is read -/

theorem read_of_at? (h : (s.store r.isGlobal).at? r.position = some x) (type : ValueType) :
    s.read r type = .ok (x.value type) := by
  rw [read, h]

theorem read_of_missing (h : (s.store r.isGlobal).at? r.position = none) (type : ValueType) :
    s.read r type = .error r.error := by
  rw [read, h]

/-- A slot is free, broken, or leads to a variable. -/
theorem wiring_cases (s : Scene) (d : Document) (n : Node) (slot : Nat) :
    n.inputAt? slot = none ∨ s.Broken d n slot ∨ ∃ r x, s.Wires d n slot r x := by
  rcases hsource : n.inputAt? slot with _ | source
  · exact .inl rfl
  rcases hm : d.node? source with _ | m
  · exact .inr (.inl (.missingNode hsource hm))
  by_cases htype : m.type = .variable
  · obtain ⟨position, declared, isGlobal, hcontent⟩ :
        ∃ position declared isGlobal, m.content = .variable position declared isGlobal := by
      unfold Node.type Content.type at htype
      cases hc : m.content <;> simp_all
    have hrefers : d.Refers n slot ⟨source, position, isGlobal⟩ :=
      ⟨hsource, m, declared, hm, hcontent⟩
    rcases hat : (s.store isGlobal).at? position with _ | x
    · exact .inr (.inl (.missingVariable hrefers hat))
    · exact .inr (.inr ⟨_, x, hrefers, hat⟩)
  · exact .inr (.inl (.otherNode hsource hm htype))

/-- What is wired to a broken slot cannot be found, or cannot be read. -/
theorem Broken.wired_or_read (h : s.Broken d n slot) (type : ValueType) :
    (∃ e, d.wired n slot = .error e) ∨
      ∃ r e, d.wired n slot = .ok (some r) ∧ s.read r type = .error e := by
  cases h with
  | @missingNode source hsource hm =>
    have hat := Document.nodeAt_eq_error.mpr ⟨hm, rfl⟩
    exact .inl ⟨.missingNode source d.name d.nodes.length,
      by simp only [Document.wired, hsource, hat]⟩
  | @otherNode source m hsource hm htype =>
    left
    simp only [Document.wired, hsource, Document.nodeAt_eq_ok.mpr hm]
    split
    next hcontent => exact absurd (by rw [Node.type, hcontent, Content.type]) htype
    next => exact ⟨_, rfl⟩
  | missingVariable hrefers hat =>
    exact .inr ⟨_, _, Document.wired_eq_ok_some.mpr hrefers, read_of_missing hat type⟩

/-! ## The value of an operand -/

theorem operand_of_literal (h : n.inputAt? slot = none) (type : ValueType) (literal : Slots) :
    s.operand d n slot type literal = .ok (literal.get type) := by
  rw [operand, Document.wired_eq_ok_none.mpr h]
  rfl

theorem operand_of_wires (h : s.Wires d n slot r x) (type : ValueType) (literal : Slots) :
    s.operand d n slot type literal = .ok (x.value type) := by
  rw [operand, Document.wired_eq_ok_some.mpr h.refers]
  exact read_of_at? h.exists_at type

theorem operand_of_broken (h : s.Broken d n slot) (type : ValueType) (literal : Slots) :
    ∃ e, s.operand d n slot type literal = .error e := by
  rcases h.wired_or_read type with ⟨e, hwired⟩ | ⟨r, e, hwired, hread⟩
  · exact ⟨e, by rw [operand, hwired]; rfl⟩
  · exact ⟨e, by rw [operand, hwired]; exact hread⟩

theorem operand_eq_ok :
    s.operand d n slot type literal = .ok v ↔ s.Operand d n slot type literal v := by
  constructor
  · intro h
    rcases wiring_cases s d n slot with hfree | hbroken | ⟨r, x, hwires⟩
    · cases (operand_of_literal hfree type literal).symm.trans h
      exact .literal hfree
    · obtain ⟨e, he⟩ := operand_of_broken hbroken type literal
      cases he.symm.trans h
    · cases (operand_of_wires hwires type literal).symm.trans h
      exact .wired hwires
  · intro h
    cases h with
    | literal hfree => exact operand_of_literal hfree type literal
    | wired hwires => exact operand_of_wires hwires type literal

/-- An operand has no value exactly if its slot is broken. -/
theorem operand_eq_error :
    (∃ e, s.operand d n slot type literal = .error e) ↔ s.Broken d n slot := by
  constructor
  · rintro ⟨e, h⟩
    rcases wiring_cases s d n slot with hfree | hbroken | ⟨r, x, hwires⟩
    · cases (operand_of_literal hfree type literal).symm.trans h
    · exact hbroken
    · cases (operand_of_wires hwires type literal).symm.trans h
  · intro h
    exact operand_of_broken h type literal

end Scene

end DialogueTree
