import DialogueTree.Proofs.Node.Comparison
import DialogueTree.Proofs.Reader.Frame
import DialogueTree.Proofs.Reader.Operand

/-!
# Comparisons in a scene

What comes of evaluating a node that compares. It has a value for each operand or fails because one
of them is broken; both values are of its type, so that they can always be compared. It changes
nothing, and all that it looks at are the slots of its type in the variables that are wired to it.

Results:
* `Scene.operand_eq_of_agreeAt`: an operand depends on one slot at most.
* `Scene.solve_eq_compared`, `Scene.solve_eq_broken`: when a comparison has an outcome, and when
  none.
* `Scene.logic_exact`: all of it.
-/

namespace DialogueTree

namespace Scene

variable {s s' after : Scene} {d : Document} {n : Node} {slot : Nat} {type : ValueType}
  {c : Comparison} {a b : Slots} {left right : Value} {passed : Bool}

/-! ## What is looked at -/

/-- Two scenes hold the same where an operand slot of a node looks: in the slot of a type in the
variable wired to it, if one is wired. -/
def AgreeAt (s s' : Scene) (d : Document) (n : Node) (slot : Nat) (type : ValueType) : Prop :=
  ∀ r, d.Refers n slot r →
    (s.store r.isGlobal).slot? r.position type = (s'.store r.isGlobal).slot? r.position type

/-- Reading a variable looks at one of its slots. -/
theorem read_eq_slot? (s : Scene) (r : Reference) (type : ValueType) :
    s.read r type = match (s.store r.isGlobal).slot? r.position type with
      | some v => .ok v
      | none => .error r.error := by
  unfold read Store.slot?
  cases (s.store r.isGlobal).at? r.position <;> rfl

/-- An operand depends on one slot at most, and so does the failure where it has no value. -/
theorem operand_eq_of_agreeAt (h : s.AgreeAt s' d n slot type) (literal : Slots) :
    s.operand d n slot type literal = s'.operand d n slot type literal := by
  unfold operand
  rcases hwired : d.wired n slot with e | _ | r
  · rfl
  · rfl
  · have hread : s.read r type = s'.read r type := by
      rw [read_eq_slot?, read_eq_slot?, h r (Document.wired_eq_ok_some.mp hwired)]
    simpa only [Outcome.bind_ok] using hread

/-! ## The outcome of a comparison -/

/-- A comparison has an operand that is broken, or both operands. -/
theorem comparands_cases (s : Scene) (d : Document) (n : Node) (type : ValueType) (a b : Slots) :
    s.Broken d n operandSlotA ∨ s.Broken d n operandSlotB ∨
    ∃ left right, s.Operand d n operandSlotA type a left ∧
      s.Operand d n operandSlotB type b right := by
  rcases hA : s.operand d n operandSlotA type a with e | left
  · exact .inl (operand_eq_error.mp ⟨e, hA⟩)
  rcases hB : s.operand d n operandSlotB type b with e | right
  · exact .inr (.inl (operand_eq_error.mp ⟨e, hB⟩))
  · exact .inr (.inr ⟨left, right, operand_eq_ok.mp hA, operand_eq_ok.mp hB⟩)

/-- With both operands there, a comparison tells whether it holds and changes nothing. -/
theorem solve_of_comparands (hc : n.content = .logic type c a b)
    (hA : s.Operand d n operandSlotA type a left) (hB : s.Operand d n operandSlotB type b right) :
    s.solve d n = .ok (s, (c.forType type).holds left right) := by
  simp only [solve, hc, logic, operand_eq_ok.mpr hA, operand_eq_ok.mpr hB, Outcome.bind_ok]
  rfl

/-- A comparison with a broken operand fails. -/
theorem solve_of_broken_comparand (hc : n.content = .logic type c a b)
    (h : s.Broken d n operandSlotA ∨ s.Broken d n operandSlotB) : ∃ e, s.solve d n = .error e := by
  suffices hlogic : ∃ e, s.logic d n type c a b = .error e by
    obtain ⟨e, he⟩ := hlogic
    exact ⟨e, by simp only [solve, hc, he, Outcome.bind_error]⟩
  rcases hA : s.operand d n operandSlotA type a with e | left
  · exact ⟨e, by simp only [logic, hA, Outcome.bind_error]⟩
  -- The first operand has a value, so it is the second one that is broken.
  rcases h with hbroken | hbroken
  · obtain ⟨e, he⟩ := operand_of_broken hbroken type a
    cases hA.symm.trans he
  · obtain ⟨e, he⟩ := operand_of_broken hbroken type b
    exact ⟨e, by simp only [logic, hA, he, Outcome.bind_ok, Outcome.bind_error]⟩

/-- A comparison has an outcome exactly if both operands have values, and it is what becomes of
these. -/
theorem solve_eq_compared (hc : n.content = .logic type c a b) :
    s.solve d n = .ok (after, passed) ↔ after = s ∧ ∃ left right,
      s.Operand d n operandSlotA type a left ∧ s.Operand d n operandSlotB type b right ∧
      (c.forType type).holds left right = passed := by
  constructor
  · intro h
    rcases comparands_cases s d n type a b with hbroken | hbroken | ⟨left, right, hA, hB⟩
    · obtain ⟨e, he⟩ := solve_of_broken_comparand hc (.inl hbroken)
      cases he.symm.trans h
    · obtain ⟨e, he⟩ := solve_of_broken_comparand hc (.inr hbroken)
      cases he.symm.trans h
    · cases (solve_of_comparands hc hA hB).symm.trans h
      exact ⟨rfl, left, right, hA, hB, rfl⟩
  · rintro ⟨rfl, left, right, hA, hB, rfl⟩
    exact solve_of_comparands hc hA hB

/-- A comparison fails exactly if an operand is broken. -/
theorem solve_eq_broken (hc : n.content = .logic type c a b) :
    (∃ e, s.solve d n = .error e) ↔ s.Broken d n operandSlotA ∨ s.Broken d n operandSlotB := by
  constructor
  · rintro ⟨e, h⟩
    rcases comparands_cases s d n type a b with hbroken | hbroken | ⟨left, right, hA, hB⟩
    · exact .inl hbroken
    · exact .inr hbroken
    · cases (solve_of_comparands hc hA hB).symm.trans h
  · exact solve_of_broken_comparand hc

/-- Evaluating a comparison leaves the scene alone, whether it fails or not. -/
theorem enter_of_logic (hc : n.content = .logic type c a b) (i : Nat) :
    (d.enter s i n).2 = s := by
  have hcomputes : n.content.computes = true := by rw [hc]; rfl
  rcases h : s.solve d n with e | ⟨after, passed⟩
  · rw [Document.enter_of_solve_eq_error hcomputes h]
  · obtain ⟨rfl, -⟩ := (solve_eq_compared hc).mp h
    rw [Document.enter_of_solve_eq_ok hcomputes h]

/-- Where both operands see the same, so does the comparison. -/
theorem solve_eq_of_agreeAt (hc : n.content = .logic type c a b)
    (hA : s.AgreeAt s' d n operandSlotA type) (hB : s.AgreeAt s' d n operandSlotB type) :
    (·.2) <$> s.solve d n = (·.2) <$> s'.solve d n := by
  simp only [solve, hc, logic, operand_eq_of_agreeAt hA, operand_eq_of_agreeAt hB]
  rcases s'.operand d n operandSlotA type a with e | left
  · rfl
  rcases s'.operand d n operandSlotB type b with e | right
  · rfl
  · rfl

/-! ## All outcomes -/

/-- Evaluating a comparison changes nothing, and both of its operands are of its type, whatever
they are wired to. It has an outcome unless an operand is broken: true where the comparison holds
of the values of the operands, and false where it does not or means nothing for the type. And it
depends on nothing else: where the slots of its type in the variables wired to it are the same, so
is what comes of it. -/
theorem logic_exact (s : Scene) (d : Document) (hc : n.content = .logic type c a b) :
    (∀ i, (d.enter s i n).2 = s) ∧
    (∀ slot literal v, s.operand d n slot type literal = .ok v → v.type = type) ∧
    (∀ after, s.solve d n = .ok (after, true) ↔ after = s ∧ ∃ left right,
      s.Operand d n operandSlotA type a left ∧ s.Operand d n operandSlotB type b right ∧
      c.Holds left right) ∧
    (∀ after, s.solve d n = .ok (after, false) ↔ after = s ∧ ∃ left right,
      s.Operand d n operandSlotA type a left ∧ s.Operand d n operandSlotB type b right ∧
      (c.Undefined type ∨ ¬c.Holds left right)) ∧
    ((∃ e, s.solve d n = .error e) ↔ s.Broken d n operandSlotA ∨ s.Broken d n operandSlotB) ∧
    ∀ s', s.AgreeAt s' d n operandSlotA type → s.AgreeAt s' d n operandSlotB type →
      (·.2) <$> s.solve d n = (·.2) <$> s'.solve d n := by
  refine ⟨enter_of_logic hc, fun slot literal v h => (operand_eq_ok.mp h).type_eq, fun after => ?_,
    fun after => ?_, solve_eq_broken hc, fun s' => solve_eq_of_agreeAt hc⟩
  · rw [solve_eq_compared hc]
    refine and_congr_right fun _ => exists₂_congr fun left right => ?_
    exact and_congr_right fun hA => and_congr_right fun hB =>
      Comparison.holds_eq_true hA.type_eq hB.type_eq
  · rw [solve_eq_compared hc]
    refine and_congr_right fun _ => exists₂_congr fun left right => ?_
    exact and_congr_right fun hA => and_congr_right fun hB =>
      Comparison.holds_eq_false hA.type_eq hB.type_eq

end Scene

/-- A node that asks whether the variable in front of it is true. -/
def Node.lock : Node where
  index := 1
  content := .logic .bool .greater {} { bool := true }
  inputs := [⟨0, 1⟩]

/-- A shared variable that is declared as a number, and a lock that reads it as a truth value. -/
def Document.gate : Document where
  name := "gate"
  nodes := [{ index := 0, content := .variable 0 .int true, outputs := [⟨1, 0⟩] }, .lock]

namespace Scene

/-- The scene in which the gate is reached with the key. -/
def keyed : Scene where
  locals := {}
  globals := ⟨[{ name := "key", slots := { bool := true } }]⟩
  defaultStart := 0
  speaker := {}
  pending := none
  changed := false

/-- On truth values "greater" is "and", and it does not matter that the variable is declared as a
number. Nor do its number, the local variables and who speaks matter for what comes of it. -/
theorem keyed_lock :
    let crowded : Scene :=
      { keyed with
        locals := ⟨[{ name := "key" }]⟩
        globals := ⟨[{ name := "key", slots := { bool := true, int := 7 } }]⟩
        speaker := ⟨"Guard", none⟩ }
    Node.lock.content = .logic .bool .greater {} { bool := true } ∧
    Comparison.greater.Holds (.bool true) (.bool true) ∧
    keyed.AgreeAt crowded .gate .lock operandSlotA .bool ∧
    keyed.AgreeAt crowded .gate .lock operandSlotB .bool ∧
    keyed.solve .gate .lock = .ok (keyed, true) ∧
    (·.2) <$> keyed.solve .gate .lock = (·.2) <$> crowded.solve .gate .lock := by
  intro crowded
  obtain ⟨-, -, hpasses, -, -, hsame⟩ := logic_exact keyed .gate (n := .lock) rfl
  have hrefers : Document.gate.Refers .lock operandSlotA ⟨0, 0, true⟩ := ⟨rfl, _, _, rfl, rfl⟩
  have hkey : (keyed.store true).at? 0 = some ⟨"key", { bool := true }⟩ := rfl
  have hholds : Comparison.greater.Holds (.bool true) (.bool true) := .bothTrue (.inl rfl)
  have hsolve : keyed.solve .gate .lock = .ok (keyed, true) :=
    (hpasses keyed).mpr ⟨rfl, _, _, .wired ⟨hrefers, hkey⟩, .literal rfl, hholds⟩
  have hA : keyed.AgreeAt crowded .gate .lock operandSlotA .bool := by
    rintro ⟨node, position, isGlobal⟩ ⟨hsource, m, declared, hm, hcontent⟩
    cases hsource
    cases hm
    cases hcontent
    rfl
  have hB : keyed.AgreeAt crowded .gate .lock operandSlotB .bool := by
    rintro r ⟨hsource, -⟩
    cases hsource
  exact ⟨rfl, hholds, hA, hB, hsolve, hsame crowded hA hB⟩

end Scene

end DialogueTree
