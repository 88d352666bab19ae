import DialogueTree.Json.Basic

/-!
# Records in JSON

Reading a record with named fields from JSON. A record is an object, where fields may come in any
order, unknown names are passed over and a field given twice is an error; or it is an array of the
fields in their declared order, of which the last ones may be missing.

* `Json.fields?`: what is given for each field.
* `Json.required`, `Json.defaulted`, `Json.optional`: the value of a field.
* `Json.choice?`: one of a set of names.
-/

namespace DialogueTree

namespace Json

/-- The value of the only member with a name, nothing if there is none; fails if there are
several. -/
def member? (name : String) (members : List (Literal × Json)) : Option (Option Json) :=
  match members.filter (·.1 == some name) with
  | [] => some none
  | [(_, j)] => some (some j)
  | _ => none

/-- What is given for each of the fields of a record. -/
def fields? (names : List String) : Json → Option (List (Option Json))
  | .object members =>
    if members.all (·.1.isSome) then names.mapM (member? · members) else none
  | .array items =>
    if items.length ≤ names.length then
      some (items.map some ++ List.replicate (names.length - items.length) none)
    else none
  | _ => none

/-- A field that must be given. -/
def required (read : Json → Option α) (field : Option Json) : Option α := field.bind read

/-- A field with a default. -/
def defaulted (default : α) (read : Json → Option α) : Option Json → Option α
  | none => some default
  | some j => read j

/-- A field that may be missing or `null`. -/
def optional (read : Json → Option α) : Option Json → Option (Option α)
  | none | some .null => some none
  | some j => (read j).map some

/-! ## Plain values -/

/-- A truth value. -/
def bool? : Json → Option Bool
  | .bool b => some b
  | _ => none

/-- A text. -/
def text? : Json → Option String
  | .string s => s
  | _ => none

/-- A natural number of 64 bits. -/
def index? : Json → Option Nat
  | .number n => n.toIndex?
  | _ => none

/-- An integer of 32 bits. -/
def int32? : Json → Option Int32
  | .number n => n.toInt32?
  | _ => none

/-- A number in single precision. -/
def float32? : Json → Option Float32
  | .number n => n.toFloat32?
  | _ => none

/-- An array of values of one kind. -/
def list? (read : Json → Option α) : Json → Option (List α)
  | .array items => items.mapM read
  | _ => none

/-! ## Names -/

/-- Whether a value says nothing: `null`, or where a value has been kept for later reading also
an empty object. -/
def isUnit (kept : Bool) : Json → Bool
  | .null => true
  | .object [] => kept
  | _ => false

/-- One of a set of names: the name as a text, or an object with nothing under the name. -/
def choice? (names : List (String × α)) (kept : Bool) : Json → Option α
  | .string (some s) => names.lookup s
  | .object [(some s, j)] => if j.isUnit kept then names.lookup s else none
  | _ => none

end Json

end DialogueTree
