import DialogueTree.Proofs.InPlace
import DialogueTree.Proofs.Reader.Evaluation

/-!
# Evaluation in place

A node is evaluated in place: its operands are looked up one after another, and then there is at
most one write, to the variable wired to the first operand or to the default way in. The write is
the last thing that is done, and it cannot fail where the variable has been read, so an evaluation
that fails leaves the scene as it was.

Results:
* `Evaluating.exec_write`: a write in place.
* `Evaluating.exec_solve`: evaluation in place does all that evaluation does, or nothing.
-/

namespace DialogueTree

/-- A program that reads and changes a scene. -/
abbrev Evaluating := InPlace Scene ReaderError

namespace Evaluating

open InPlace Outcome

/-- Writes to the variable that a reference stands for. -/
def write (r : Reference) (v : Value) : Evaluating Unit := do
  let s ← get
  refuseIf ((s.store r.isGlobal).at? r.position = none) r.error
  modify fun s => s.withMemory (s.memory.apply (.slot r.isGlobal r.position v))

/-- Changes the variable wired to the first operand, if one is wired and the change means something
for its type. -/
def edit (d : Document) (n : Node) (type : ValueType) (c : Change) (b : Slots) :
    Evaluating Bool := do
  match ← ask fun _ => d.wired n operandSlotA with
  | none => return false
  | some target =>
    let operand ← ask (·.operand d n operandSlotB type b)
    let current ← ask (·.read target type)
    match c.apply current operand with
    | .updated v =>
      write target v
      return true
    | .undefined => return false
    | .divisionByZero => throw (.divisionByZero n.index)

/-- Evaluates a node that computes, and tells whether it is left by its first exit. -/
def solve (d : Document) (n : Node) : Evaluating Bool :=
  match n.content with
  | .logic type c a b => do
    let left ← ask (·.operand d n operandSlotA type a)
    let right ← ask (·.operand d n operandSlotB type b)
    return (c.forType type).holds left right
  | .edit type c b => edit d n type c b
  | .startChange id => do
    modify fun s => { s with defaultStart := id }
    return true
  | content => throw (.notLogic n.index content)

variable {s : Scene} {d : Document} {n : Node}

theorem exec_write (r : Reference) (v : Value) (s : Scene) :
    (write r v).exec s = whole s (s.write r v) := by
  unfold write
  simp only [exec_bind, exec_get, exec_refuseIf]
  cases hat : (s.store r.isGlobal).at? r.position with
  | none =>
    have hwrite : s.write r v = .error r.error := by
      have hge := List.getElem?_eq_none_iff.mp hat
      rw [Scene.write, Store.assignAt?, if_neg (Nat.not_lt.mpr hge)]
    rw [hwrite, if_pos rfl]
    rfl
  | some x =>
    have hread : s.read r v.type = .ok (x.value v.type) := by rw [Scene.read, hat]
    rw [Scene.write_of_read hread v, if_neg (by simp)]
    rfl

theorem exec_edit (type : ValueType) (c : Change) (b : Slots) (s : Scene) :
    (edit d n type c b).exec s = match s.edit d n type c b with
      | .ok (some after) => (.ok true, after)
      | .ok none => (.ok false, s)
      | .error e => (.error e, s) := by
  unfold edit Scene.edit
  rw [exec_bind, exec_ask]
  rcases d.wired n operandSlotA with e | _ | target
  · rfl
  · rfl
  dsimp only [bind_ok]
  rw [exec_bind, exec_ask]
  rcases s.operand d n operandSlotB type b with e | operand
  · rfl
  rw [bind_ok]
  dsimp only
  rw [exec_bind, exec_ask]
  rcases hread : s.read target type with e | current
  · rfl
  rw [bind_ok]
  dsimp only
  rcases c.apply current operand with v | _ | _
  · dsimp only
    rw [exec_bind, exec_write, Scene.write_of_read hread v]
    rfl
  · rfl
  · rfl

/-- Evaluation in place does all that evaluation does, or nothing. -/
theorem exec_solve (d : Document) (n : Node) (s : Scene) :
    (solve d n).exec s = match s.solve d n with
      | .ok (after, passed) => (.ok passed, after)
      | .error e => (.error e, s) := by
  unfold solve Scene.solve
  cases n.content with
  | logic type c a b =>
    dsimp only
    rw [exec_bind, exec_ask, Scene.logic]
    rcases s.operand d n operandSlotA type a with e | left
    · rfl
    rw [bind_ok]
    dsimp only
    rw [exec_bind, exec_ask]
    rcases s.operand d n operandSlotB type b with e | right
    · rfl
    · rfl
  | edit type c b =>
    dsimp only
    rw [exec_edit]
    rcases s.edit d n type c b with e | _ | after <;> rfl
  | _ => rfl

end Evaluating

end DialogueTree
