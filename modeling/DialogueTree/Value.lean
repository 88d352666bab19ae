import DialogueTree.Decimal.Layout
import DialogueTree.Text.Blank
import DialogueTree.Text.Lowercase

/-!
# Typed values and variables

Variables of a dialogue have four slots, one for each type of value, and which slot counts is
decided where the variable is read. Names are compared in lower case.

* `Slots.get_set`: a slot holds the value last written to it.
* `Slots.get_set_of_ne`: writing one slot leaves the others alone.
-/

namespace DialogueTree

/-- The four types of value (`VarType`). -/
inductive ValueType where
  | bool
  | int
  | float
  | text
  deriving DecidableEq, Repr

namespace ValueType

/-- All types, in the order of their codes. -/
def all : List ValueType := [.bool, .int, .float, .text]

/-- The name of a type. -/
def name : ValueType → String
  | .bool => "bool"
  | .int => "int"
  | .float => "float"
  | .text => "string"

/-- The type with a name, in any letter case and with white space around it (`VarType.parse_name`).
-/
def ofName? (s : String) : Option ValueType :=
  let wanted := Text.lower (Text.trim s)
  all.find? (·.name == wanted)

/-- The type with a code (`VarType.from_code`). -/
def ofCode? : Int → Option ValueType
  | 0 => some .bool
  | 1 => some .int
  | 2 => some .float
  | 3 => some .text
  | _ => none

end ValueType

/-- A value of one of the four types (`VarValue`). -/
inductive Value where
  | bool (b : Bool)
  | int (i : Int32)
  | float (x : Float32)
  | text (s : String)
  deriving DecidableEq

namespace Value

/-- The type of a value. -/
def type : Value → ValueType
  | .bool _ => .bool
  | .int _ => .int
  | .float _ => .float
  | .text _ => .text

/-- A value as it is shown to a player (the display of `VarValue`). -/
def shown : Value → String
  | .bool true => "true"
  | .bool false => "false"
  | .int i => toString i.toInt
  | .float x => Layout.plain.text x
  | .text s => s

end Value

/-- One slot for each type of value (`OperandLiteral`). -/
structure Slots where
  bool : Bool := false
  int : Int32 := 0
  float : Float32 := 0
  text : String := ""
  deriving DecidableEq

namespace Slots

/-- The value in the slot of a type. -/
def get (s : Slots) : ValueType → Value
  | .bool => .bool s.bool
  | .int => .int s.int
  | .float => .float s.float
  | .text => .text s.text

/-- Writes a value to the slot of its type. -/
def set (s : Slots) : Value → Slots
  | .bool b => { s with bool := b }
  | .int i => { s with int := i }
  | .float x => { s with float := x }
  | .text t => { s with text := t }

/-- Default slots but for the one of a value. -/
def ofValue (v : Value) : Slots := Slots.set {} v

@[simp] theorem type_get (s : Slots) (t : ValueType) : (s.get t).type = t := by cases t <;> rfl

@[simp] theorem get_set (s : Slots) (v : Value) : (s.set v).get v.type = v := by cases v <;> rfl

theorem get_set_of_ne (s : Slots) {v : Value} {t : ValueType} (h : t ≠ v.type) :
    (s.set v).get t = s.get t := by
  cases v <;> cases t <;> simp_all [Value.type, set, get]

end Slots

/-- Whether two names are the same in lower case (`Variable.name_matches`). -/
def sameName (a b : String) : Bool := Text.lower a == Text.lower b

/-- A named variable (`Variable`). -/
structure Variable where
  name : String
  slots : Slots := {}
  deriving DecidableEq

namespace Variable

/-- The value of a variable when it is read as a type (`Variable.value`). -/
def value (v : Variable) (t : ValueType) : Value := v.slots.get t

/-- Writes a value to the slot of its type (`Variable.assign`). -/
def assign (v : Variable) (a : Value) : Variable := { v with slots := v.slots.set a }

end Variable

end DialogueTree
