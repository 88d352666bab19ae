import DialogueTree.Json.Lexer

/-!
# Reading JSON

A JSON text as a value. Characters make tokens and tokens are taken one by one; what has been read
of the arrays and objects that are still open is kept on a stack, so nesting costs no recursion.

* `Json.Reading.step`: what one token does.
* `Json.Progress.step`: what one character does.
* `Json.parse?`: the value of a text that is strict JSON.
-/

namespace DialogueTree

namespace Json

/-- An array or object that is still open, with what has been read of it backwards. An object is
open at the member with the name `key`. -/
inductive Frame where
  | array (items : List Json)
  | object (members : List (Literal × Json)) (key : Literal)

/-- What the text needs next: a value; a value or the end of an array that has just been opened; a
comma or the end of an array; a name, or the end of an object that has just been opened; the colon
after a name; a comma or the end of an object; or nothing more. -/
inductive Reading where
  | value (stack : List Frame)
  | firstItem (stack : List Frame)
  | moreItems (items : List Json) (stack : List Frame)
  | name (members : List (Literal × Json)) (stack : List Frame)
  | colon (members : List (Literal × Json)) (key : Literal) (stack : List Frame)
  | moreMembers (members : List (Literal × Json)) (stack : List Frame)
  | done (j : Json)

namespace Reading

/-- A finished value goes into the innermost array or object. -/
def put (j : Json) : List Frame → Reading
  | [] => .done j
  | .array items :: stack => .moreItems (j :: items) stack
  | .object members key :: stack => .moreMembers ((key, j) :: members) stack

/-- A token where a value must start. -/
def startValue (stack : List Frame) : Token → Option Reading
  | .null => some (put .null stack)
  | .bool b => some (put (.bool b) stack)
  | .number n => some (put (.number n) stack)
  | .string s => some (put (.string s) stack)
  | .openArray => some (.firstItem stack)
  | .openObject => some (.name [] stack)
  | _ => none

/-- What one token does. A name may follow an opening brace or a comma, and an object ends after
an opening brace or a member, never after a comma. -/
def step : Reading → Token → Option Reading
  | .value stack, t => startValue stack t
  | .firstItem stack, .closeArray => some (put (.array []) stack)
  | .firstItem stack, t => startValue (.array [] :: stack) t
  | .moreItems items stack, .comma => some (.value (.array items :: stack))
  | .moreItems items stack, .closeArray => some (put (.array items.reverse) stack)
  | .name members stack, .string key => some (.colon members key stack)
  | .name [] stack, .closeObject => some (put (.object []) stack)
  | .colon members key stack, .colon => some (.value (.object members key :: stack))
  | .moreMembers members stack, .comma => some (.name members stack)
  | .moreMembers members stack, .closeObject => some (put (.object members.reverse) stack)
  | _, _ => none

/-- What some tokens do. -/
def run (r : Reading) (ts : List Token) : Option Reading := ts.foldlM step r

end Reading

/-- Where the scanner stands, and what the text needs next. -/
structure Progress where
  mode : Mode
  reading : Reading

namespace Progress

/-- What one character does. -/
def step (p : Progress) (c : Char) : Option Progress := do
  let (ts, mode) ← p.mode.step c
  return ⟨mode, ← p.reading.run ts⟩

/-- The value that has been read when the text ends. -/
def finish (p : Progress) : Option Json := do
  match ← p.reading.run (← p.mode.finish) with
  | .done j => some j
  | _ => none

end Progress

/-- The value of a text. -/
def parseChars? (cs : List Char) : Option Json := do
  (← cs.foldlM Progress.step ⟨.between, .value []⟩).finish

/-- The value of a text. -/
def parse? (s : String) : Option Json := parseChars? s.toList

end Json

end DialogueTree
