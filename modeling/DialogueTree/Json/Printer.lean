import DialogueTree.Json.Literal

/-!
# Writing JSON

A JSON value as text, without any blanks or with each item on a line of its own. The two differ
only in the blanks between tokens, which a `Spacing` gives.

* `Json.chars`: a value as written with a given spacing.
* `Json.compact`, `Json.pretty`: the two spacings in use.
-/

namespace DialogueTree

namespace Json

/-- The blanks between tokens: before an item or a closing bracket, by how deep it is nested, and
between a colon and the value. -/
structure Spacing where
  line : Nat → List Char
  colon : List Char

/-- No blanks at all. -/
def Spacing.none : Spacing := ⟨fun _ => [], []⟩

/-- A line for each item, two spaces further in at each level. -/
def Spacing.indented : Spacing := ⟨fun d => '\n' :: List.replicate (2 * d) ' ', [' ']⟩

/-- JSON numbers sign their exponents. -/
def spelling : Numeral.Spelling := ⟨true⟩

mutual

/-- A value under `d` arrays and objects. -/
def chars (sp : Spacing) (d : Nat) : Json → List Char
  | .null => ['n', 'u', 'l', 'l']
  | .bool true => ['t', 'r', 'u', 'e']
  | .bool false => ['f', 'a', 'l', 's', 'e']
  | .number n => n.chars spelling
  | .string s => s.chars
  | .array [] => ['[', ']']
  | .array (j :: js) =>
    '[' :: sp.line (d + 1) ++ chars sp (d + 1) j ++ itemChars sp d js ++ sp.line d ++ [']']
  | .object [] => ['\x7b', '\x7d']
  | .object ((k, j) :: ms) =>
    '\x7b' :: sp.line (d + 1) ++ k.chars ++ ':' :: sp.colon ++ chars sp (d + 1) j ++
      memberChars sp d ms ++ sp.line d ++ ['\x7d']

/-- The items after the first one, each after a comma. -/
def itemChars (sp : Spacing) (d : Nat) : List Json → List Char
  | [] => []
  | j :: js => ',' :: sp.line (d + 1) ++ chars sp (d + 1) j ++ itemChars sp d js

/-- The members after the first one, each after a comma. -/
def memberChars (sp : Spacing) (d : Nat) : List (Literal × Json) → List Char
  | [] => []
  | (k, j) :: ms =>
    ',' :: sp.line (d + 1) ++ k.chars ++ ':' :: sp.colon ++ chars sp (d + 1) j ++
      memberChars sp d ms

end

/-- A value as text without blanks. -/
def compact (j : Json) : String := String.ofList (j.chars .none 0)

/-- A value as text with a line for each item. -/
def pretty (j : Json) : String := String.ofList (j.chars .indented 0)

end Json

end DialogueTree
