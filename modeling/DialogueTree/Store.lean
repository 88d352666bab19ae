import DialogueTree.Value

/-!
# Variable stores

Variables in a fixed order. A name means the first variable that has it in lower case, and nodes
address variables by position.

* `Store.get?`, `Store.set?`, `Store.insert?`, `Store.erase?`: access by name.
* `Store.assignAt?`: access by position.
-/

namespace DialogueTree

/-- Variables in order (`VariableStore`). -/
structure Store where
  toList : List Variable := []
  deriving DecidableEq

namespace Store

/-- The names in order (`VariableStore.names`). -/
def names (s : Store) : List String := s.toList.map (·.name)

/-- How many variables there are. -/
def size (s : Store) : Nat := s.toList.length

/-- The position of the first variable with a name (`VariableStore.index_of`). -/
def indexOf? (s : Store) (name : String) : Option Nat :=
  s.toList.findIdx? fun v => sameName v.name name

/-- The variable at a position (`VariableStore.at`). -/
def at? (s : Store) (i : Nat) : Option Variable := s.toList[i]?

/-- The first variable with a name (`VariableStore.find`). -/
def find? (s : Store) (name : String) : Option Variable := (s.indexOf? name).bind s.at?

/-- The value of the first variable with a name when it is read as a type (`VariableStore.get`). -/
def get? (s : Store) (name : String) (t : ValueType) : Option Value :=
  (s.find? name).map (·.value t)

/-- Writes a value to the variable at a position, which must exist. -/
def assignAt? (s : Store) (i : Nat) (a : Value) : Option Store :=
  if i < s.toList.length then some ⟨s.toList.modify i (·.assign a)⟩ else none

/-- Writes a value to the first variable with a name, which must exist (`VariableStore.set`). -/
def set? (s : Store) (name : String) (a : Value) : Option Store :=
  match s.indexOf? name with
  | some i => s.assignAt? i a
  | none => none

/-- Adds a variable at the end, unless its name is taken (`VariableStore.add`). -/
def insert? (s : Store) (v : Variable) : Option Store :=
  match s.indexOf? v.name with
  | some _ => none
  | none => some ⟨s.toList ++ [v]⟩

/-- Takes out the first variable with a name, which must exist (`VariableStore.remove`). -/
def erase? (s : Store) (name : String) : Option Store :=
  match s.indexOf? name with
  | some i => some ⟨s.toList.eraseIdx i⟩
  | none => none

end Store

end DialogueTree
