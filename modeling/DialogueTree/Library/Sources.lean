import DialogueTree.Format.Document
import DialogueTree.Library.Basic

/-!
# Libraries from texts

Reading trees and shared variables from JSON texts. Trees come by path, each path once, and are
taken in the order of their paths.

* `Sources.insert`: one more text, in its place.
* `Library.ofSources`: the library that the texts make up.
-/

namespace DialogueTree

/-- Texts by path, in the order of the paths. -/
structure Sources where
  entries : List (String × String) := []
  deriving DecidableEq

namespace Sources

/-- Puts a text where its path belongs; one that is there already under the path is replaced. -/
def insertInto (path text : String) : List (String × String) → List (String × String)
  | [] => [(path, text)]
  | (p, t) :: rest =>
    if path = p then (path, text) :: rest
    else if path < p then (path, text) :: (p, t) :: rest
    else (p, t) :: insertInto path text rest

/-- Adds a text under a path. -/
def insert (s : Sources) (path text : String) : Sources := ⟨insertInto path text s.entries⟩

/-- The texts of a list; of those under one path the last one counts. -/
def ofList (entries : List (String × String)) : Sources :=
  entries.foldl (fun s e => s.insert e.1 e.2) {}

end Sources

namespace Document

/-- The document that the text under a path gives (`parse_tree_json`). -/
def parse (path text : String) : Except LibraryError Document :=
  match parse? text with
  | some d => .ok d
  | none => .error (.treeUnreadable path)

end Document

namespace Store

/-- Adds variables one by one; their names must all be free. -/
def insertAll (s : Store) : List Variable → Except LibraryError Store
  | [] => .ok s
  | v :: rest => match s.insert? v with
    | some next => next.insertAll rest
    | none => .error (.globalDuplicate v.name)

/-- The shared variables that a text gives (`parse_globals_json`). -/
def parseGlobals (text : String) : Except LibraryError Store :=
  match (Json.parse? text).bind ofJson? with
  | some listed => insertAll {} listed.toList
  | none => .error .globalsUnreadable

end Store

namespace Library

/-- Adds the trees of some texts one by one. -/
def addSources (l : Library) : List (String × String) → Except LibraryError Library
  | [] => .ok l
  | (path, text) :: rest => do (← l.add (← Document.parse path text)).addSources rest

/-- The library that texts of trees, and perhaps one of shared variables, make up
(`TreeLibrary.from_json_map`). -/
def ofSources (s : Sources) (globals : Option String) : Except LibraryError Library := do
  let store ← match globals with
    | some text => Store.parseGlobals text
    | none => pure {}
  addSources { globals := store } s.entries

end Library

end DialogueTree
