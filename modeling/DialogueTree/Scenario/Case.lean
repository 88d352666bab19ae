import DialogueTree.Format.Conversation
import DialogueTree.Json.Parser
import DialogueTree.Reader.Stop

/-!
# Test cases

A scripted walk through a library: the tree and the way in, the answers to give, and the events
that are expected. Events and cases are written as JSON.

* `Event.toJson`, `Event.ofJson?`: an event.
* `TestCase.toJson`, `TestCase.ofJson?`: a case.
-/

namespace DialogueTree

/-- A stop as a case records it (`ExpectedEvent`). The speaker is present at the first stop and
after a change. -/
inductive Event where
  | dialogue (speaker : Option String) (text : String)
  | branch (speaker : Option String) (question : String) (answers : List String)
  | finish
  deriving DecidableEq

/-- The form of cases that this library reads (`TESTCASE_SCHEMA_V1`). -/
def caseSchema : String := "bd-tool-case.v1"

/-- A scripted walk (`TestCase`). -/
structure TestCase where
  schema : String := caseSchema
  tree : Option String := none
  start : Option Int32 := none
  choices : List Nat := []
  expected : List Event := []
  deriving DecidableEq

namespace Event

/-- The event of a stop. -/
def ofStop (s : Stop) : Event :=
  match s.output with
  | .dialogue text => .dialogue s.speaker text
  | .branch question answers => .branch s.speaker question (answers.map (·.text))
  | .finish => .finish

/-- The field of a speaker, left out where there is none. -/
def speakerField : Option String → List (String × Json)
  | some name => [("speaker", .text name)]
  | none => []

/-- The JSON of an event. -/
def toJson : Event → Json
  | .dialogue speaker text =>
    .record (("kind", .text "dialogue") :: speakerField speaker ++ [("text", .text text)])
  | .branch speaker question answers =>
    .record (("kind", .text "branch") :: speakerField speaker ++
      [("question", .text question), ("answers", .ofList .text answers)])
  | .finish => .record [("kind", .text "end")]

/-- The event that a JSON value under `enclosing` arrays and objects gives. -/
def ofJson? (enclosing : Nat) (j : Json) : Option Event := do
  let (kind, fields) ← j.tagged? enclosing
  match kind with
  | "dialogue" => match ← fields.fields? ["speaker", "text"] with
    | [speaker, text] =>
      return .dialogue (← Json.optional Json.text? speaker) (← Json.required Json.text? text)
    | _ => none
  | "branch" => match ← fields.fields? ["speaker", "question", "answers"] with
    | [speaker, question, answers] =>
      return .branch (← Json.optional Json.text? speaker) (← Json.required Json.text? question)
        (← Json.required (Json.list? Json.text?) answers)
    | _ => none
  | "end" => if fields.isFieldless then some .finish else none
  | _ => none

end Event

namespace TestCase

/-- The JSON of a case. -/
def toJson (c : TestCase) : Json :=
  .record [("schemaVersion", .text c.schema), ("tree", .ofOption .text c.tree),
    ("startId", .ofOption (fun id => .int id.toInt) c.start),
    ("choices", .ofList (fun (n : Nat) => .int n) c.choices),
    ("expectedEvents", .ofList Event.toJson c.expected)]

/-- How many arrays and objects stand around an event of a case. -/
def eventNesting : Nat := 2

/-- The case that a JSON value gives. -/
def ofJson? (j : Json) : Option TestCase := do
  match ← j.fields? ["schemaVersion", "tree", "startId", "choices", "expectedEvents"] with
  | [schema, tree, start, choices, expected] =>
    return {
      schema := ← Json.required Json.text? schema
      tree := ← Json.optional Json.text? tree
      start := ← Json.optional Json.int32? start
      choices := ← Json.defaulted [] (Json.list? Json.index?) choices
      expected := ← Json.defaulted [] (Json.list? (Event.ofJson? eventNesting)) expected }
  | _ => none

/-- The case that a text gives. -/
def parse? (text : String) : Option TestCase := do ofJson? (← Json.parse? text)

end TestCase

end DialogueTree
