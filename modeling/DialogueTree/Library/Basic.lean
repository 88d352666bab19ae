import DialogueTree.Library.Tree
import DialogueTree.Report

/-!
# Libraries

The trees that a host knows, in the order they were added, and the variables they share. No two of
them have one name if they were all added by `Library.add`.

* `Library.add`: one more tree.
* `Library.resolve`: the tree with a name, or the first one.
-/

namespace DialogueTree

/-- Why a library cannot be put together or has no such tree. -/
inductive LibraryError where
  | treeUnreadable (path : String)
  | treeDuplicate (name : String)
  | treeNotFound (name : String)
  | empty
  | globalsUnreadable
  | globalDuplicate (name : String)
  deriving DecidableEq

/-- What is told about an error of a library. -/
def LibraryError.report : LibraryError → Report
  | treeUnreadable path =>
    ⟨"API_TREE_JSON_INVALID",
      s!"Failed to parse tree document \"{path}\": not the JSON of a tree", none⟩
  | treeDuplicate name => ⟨"API_TREE_DUPLICATE", s!"Tree \"{name}\" is registered twice.", none⟩
  | treeNotFound name => ⟨"API_TREE_NOT_FOUND", s!"Tree \"{name}\" is not registered.", none⟩
  | empty => ⟨"API_LIBRARY_EMPTY", "No dialogue trees are registered.", none⟩
  | globalsUnreadable =>
    ⟨"API_GLOBALS_JSON_INVALID", "Failed to parse globals: not the JSON of a variable list", none⟩
  | globalDuplicate name =>
    ⟨"API_GLOBALS_DUPLICATE", s!"Global variable \"{name}\" is declared twice.", none⟩

/-- Trees in order, and the variables they share (`TreeLibrary`). -/
structure Library where
  trees : List Tree := []
  globals : Store := {}
  deriving DecidableEq

namespace Library

/-- The names of the trees (`TreeLibrary.names`). -/
def names (l : Library) : List String := l.trees.map (·.name)

/-- How many trees there are. -/
def size (l : Library) : Nat := l.trees.length

/-- The tree at a position (`TreeLibrary.by_index`). -/
def tree? (l : Library) (i : Nat) : Option Tree := l.trees[i]?

/-- The position of the first tree with a name (`TreeLibrary.by_name`). -/
def indexOf? (l : Library) (name : String) : Option Nat := l.trees.findIdx? (·.name == name)

/-- The position of the first tree with a name, or of the first tree where no name is asked for
(`TreeLibrary.resolve`). -/
def resolve (l : Library) : Option String → Except LibraryError Nat
  | some name => match l.indexOf? name with
    | some i => .ok i
    | none => .error (.treeNotFound name)
  | none => if l.trees = [] then .error .empty else .ok 0

/-- Adds a tree as authored, unless its name is taken (`TreeLibrary.add`). -/
def add (l : Library) (d : Document) : Except LibraryError Library :=
  match l.indexOf? d.name with
  | some _ => .error (.treeDuplicate d.name)
  | none => .ok { l with trees := l.trees ++ [.ofDocument d] }

/-- Changes the tree at a position. -/
def modifyTree (l : Library) (i : Nat) (f : Tree → Tree) : Library :=
  { l with trees := l.trees.modify i f }

/-- All trees with their authored state; the shared variables stay as they are
(`TreeLibrary.reset_trees`). -/
def resetTrees (l : Library) : Library := { l with trees := l.trees.map (·.reset) }

end Library

end DialogueTree
