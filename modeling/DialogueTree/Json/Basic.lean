import DialogueTree.Decimal.Reading

/-!
# JSON values

A JSON text as a value. Members keep their order and may repeat a name, numbers stay as they are
written, and a string whose escapes leave half of a surrogate pair is a string without a text.

* `Json.depth`: how many arrays and objects are nested.
* `Json.isLegible`: whether every string has a text and every number is within range.
-/

namespace DialogueTree

/-- The text of a string literal, or nothing when its escapes leave half of a surrogate pair. -/
abbrev Literal := Option String

/-- A JSON value as written. -/
inductive Json where
  | null
  | bool (b : Bool)
  | number (n : Numeral)
  | string (s : Literal)
  | array (items : List Json)
  | object (members : List (Literal × Json))

namespace Json

/-- A string with a text. -/
def text (s : String) : Json := .string (some s)

/-- An integer. -/
def int (i : Int) : Json := .number (.ofInt i)

/-- An object whose names all have a text. -/
def record (members : List (String × Json)) : Json :=
  .object (members.map fun m => (some m.1, m.2))

/-- A value, or `null` where there is none. -/
def ofOption (f : α → Json) : Option α → Json
  | none => .null
  | some a => f a

/-- An array of the forms of `as`. -/
def ofList (f : α → Json) (as : List α) : Json := .array (as.map f)

mutual

/-- How deep arrays and objects are nested in a value. -/
def depth : Json → Nat
  | .array items => depthOfItems items + 1
  | .object members => depthOfMembers members + 1
  | _ => 0

/-- The greatest depth of the items. -/
def depthOfItems : List Json → Nat
  | [] => 0
  | j :: js => max (depth j) (depthOfItems js)

/-- The greatest depth of the values of the members. -/
def depthOfMembers : List (Literal × Json) → Nat
  | [] => 0
  | (_, j) :: ms => max (depth j) (depthOfMembers ms)

end

mutual

/-- Whether all strings in a value have a text and all its numbers are within range. -/
def isLegible : Json → Bool
  | .number n => n.inRange
  | .string s => s.isSome
  | .array items => areLegible items
  | .object members => membersAreLegible members
  | _ => true

/-- Whether all items are legible. -/
def areLegible : List Json → Bool
  | [] => true
  | j :: js => isLegible j && areLegible js

/-- Whether the names and values of all members are legible. -/
def membersAreLegible : List (Literal × Json) → Bool
  | [] => true
  | (k, j) :: ms => k.isSome && isLegible j && membersAreLegible ms

end

/-- The greatest depth to which a value that is kept may be nested, counted from the outermost
array or object. -/
def depthLimit : Nat := 127

/-- Whether a value under `enclosing` arrays and objects can be kept for later reading: it is
legible and not nested too deep. -/
def canKeep (enclosing : Nat) (j : Json) : Bool :=
  j.isLegible && enclosing + j.depth ≤ depthLimit

end Json

end DialogueTree
