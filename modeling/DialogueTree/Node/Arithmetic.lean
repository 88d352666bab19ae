import DialogueTree.Node.Basic
import DialogueTree.Text.Strip

/-!
# Comparing and changing values

What the comparisons and changes of nodes mean on values. Integers wrap around at 32 bits, numbers
with a point follow the rules of single precision, truth values can only be set, and texts can be
set, joined and stripped.

* `Comparison.holds`: whether a comparison of two values of one type holds.
* `Change.apply`: what a change makes of a value.
-/

namespace DialogueTree

namespace Comparison

/-- A comparison of ordered things, given their equality and order (`ordered`). -/
def onOrder (c : Comparison) (eq less lessOrEqual : α → α → Bool) (a b : α) : Option Bool :=
  match c with
  | .equals => some (eq a b)
  | .notEquals => some (!eq a b)
  | .greater => some (less b a)
  | .greaterOrEqual => some (lessOrEqual b a)
  | .less => some (less a b)
  | .lessOrEqual => some (lessOrEqual a b)
  | .and | .or => none

/-- A comparison of two values, unless it means nothing for their types. Numbers with a point are
compared as such: zero equals minus zero, and what is no number equals nothing. -/
def holds? (c : Comparison) : Value → Value → Option Bool
  | .bool a, .bool b =>
    match c with
    | .equals => some (a == b)
    | .notEquals => some (a != b)
    | .and => some (a && b)
    | .or => some (a || b)
    | _ => none
  | .int a, .int b => c.onOrder (fun a b => decide (a = b)) (fun a b => decide (a < b))
      (fun a b => decide (a ≤ b)) a b
  | .float a, .float b => c.onOrder Float32.beq (fun a b => decide (a < b))
      (fun a b => decide (a ≤ b)) a b
  | .text a, .text b =>
    match c with
    | .equals => some (a == b)
    | .notEquals => some (a != b)
    | _ => none
  | _, _ => none

/-- Whether a comparison holds; one that means nothing does not (`compare`). -/
def holds (c : Comparison) (a b : Value) : Bool := (c.holds? a b).getD false

end Comparison

namespace Change

/-- What comes of a change. -/
inductive Outcome where
  | updated (v : Value)
  | undefined
  | divisionByZero
  deriving DecidableEq

/-- A change of an integer, unless it divides by zero. A quotient is cut off toward zero. -/
def ofInts? (c : Change) (a b : Int32) : Option Int32 :=
  match c with
  | .set => some b
  | .add => some (a + b)
  | .subtract => some (a - b)
  | .multiply => some (a * b)
  | .divide => if b = 0 then none else some (a / b)

/-- A change of a number with a point. -/
def ofFloats (c : Change) (a b : Float32) : Float32 :=
  match c with
  | .set => b
  | .add => a + b
  | .subtract => a - b
  | .multiply => a * b
  | .divide => a / b

/-- A change of a text, unless it means nothing for texts. -/
def ofTexts? (c : Change) (a b : String) : Option String :=
  match c with
  | .set => some b
  | .add => some (a ++ b)
  | .subtract => some (Text.strip a b)
  | .multiply | .divide => none

/-- What a change with operand `b` makes of `a` (`apply_edit`). -/
def apply (c : Change) : Value → Value → Outcome
  | .bool _, .bool b => .updated (.bool b)
  | .int a, .int b => match c.ofInts? a b with
    | some i => .updated (.int i)
    | none => .divisionByZero
  | .float a, .float b => .updated (.float (c.ofFloats a b))
  | .text a, .text b => match c.ofTexts? a b with
    | some s => .updated (.text s)
    | none => .undefined
  | _, _ => .undefined

end Change

end DialogueTree
