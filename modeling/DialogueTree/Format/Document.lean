import DialogueTree.Document.Basic
import DialogueTree.Format.Node
import DialogueTree.Json.Parser

/-!
# The JSON of tree documents

* `Document.toJson`, `Document.ofJson?`: a tree document.
* `Document.parse?`: the document that a text gives.
-/

namespace DialogueTree

namespace Document

/-- The JSON of a document. -/
def toJson (d : Document) : Json :=
  .record [("name", .text d.name), ("defaultStartId", .int d.defaultStart.toInt),
    ("variables", .ofList Variable.toJson d.declared), ("nodes", .ofList Node.toJson d.nodes)]

/-- How many arrays and objects stand around a node of a document. -/
def nodeNesting : Nat := 2

/-- The document that a JSON value gives. -/
def ofJson? (j : Json) : Option Document := do
  match ← j.fields? ["name", "defaultStartId", "variables", "nodes"] with
  | [name, start, declared, nodes] =>
    return {
      name := ← Json.required Json.text? name
      defaultStart := ← Json.defaulted 0 Json.int32? start
      declared := ← Json.defaulted [] (Json.list? Variable.ofJson?) declared
      nodes := ← Json.required (Json.list? (Node.ofJson? nodeNesting)) nodes }
  | _ => none

/-- The document that a text gives. -/
def parse? (text : String) : Option Document := do ofJson? (← Json.parse? text)

end Document

end DialogueTree
