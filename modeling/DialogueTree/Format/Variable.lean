import DialogueTree.Json.Number
import DialogueTree.Json.Record
import DialogueTree.Store

/-!
# The JSON of values and variables

A value stands for itself, its type shows in what it is. Slots are fields named for their types,
and each may be left out where it holds its default.

* `Variable.toJson`, `Variable.ofJson?`: a variable with its slots.
* `Store.toJson`, `Store.ofJson?`: a list of variables.
-/

namespace DialogueTree

namespace ValueType

/-- The JSON of a type. -/
def toJson (t : ValueType) : Json := .text t.name

/-- The type that a JSON value names. -/
def ofJson? (kept : Bool) : Json → Option ValueType :=
  Json.choice? (all.map fun t => (t.name, t)) kept

end ValueType

namespace Value

/-- The JSON of a value. -/
def toJson : Value → Json
  | .bool b => .bool b
  | .int i => .int i.toInt
  | .float x => .float32 x
  | .text s => .text s

/-- The first type in order that a JSON value is a value of. -/
def ofJson? (j : Json) : Option Value :=
  (Value.bool <$> j.bool?) <|> (Value.int <$> j.int32?) <|> (Value.float <$> j.float32?) <|>
    (Value.text <$> j.text?)

end Value

namespace Slots

/-- The fields of slots. -/
def fields (s : Slots) : List (String × Json) :=
  [("bool", .bool s.bool), ("int", .int s.int.toInt), ("float", .float32 s.float),
    ("string", .text s.text)]

/-- The names of the fields of slots. -/
def fieldNames : List String := ["bool", "int", "float", "string"]

/-- The slots that some fields give. -/
def ofFields? : List (Option Json) → Option Slots
  | [bool, int, float, text] => do
    return {
      bool := ← Json.defaulted false Json.bool? bool
      int := ← Json.defaulted 0 Json.int32? int
      float := ← Json.defaulted 0 Json.float32? float
      text := ← Json.defaulted "" Json.text? text }
  | _ => none

/-- The JSON of slots. -/
def toJson (s : Slots) : Json := .record s.fields

/-- The slots that a JSON value gives. -/
def ofJson? (j : Json) : Option Slots := do ofFields? (← j.fields? fieldNames)

end Slots

namespace Variable

/-- The JSON of a variable. -/
def toJson (v : Variable) : Json := .record (("name", .text v.name) :: v.slots.fields)

/-- The variable that a JSON value gives. -/
def ofJson? (j : Json) : Option Variable := do
  match ← j.fields? ("name" :: Slots.fieldNames) with
  | name :: slots => return ⟨← Json.required Json.text? name, ← Slots.ofFields? slots⟩
  | [] => none

end Variable

namespace Store

/-- The JSON of a store. -/
def toJson (s : Store) : Json := .ofList Variable.toJson s.toList

/-- The store that a JSON value gives. -/
def ofJson? (j : Json) : Option Store := Store.mk <$> j.list? Variable.ofJson?

end Store

end DialogueTree
