import DialogueTree.Format.Node
import DialogueTree.Reader.Output
import DialogueTree.Reader.Snapshot

/-!
# The JSON of conversations

What a reader shows, and the state it can be saved in.

* `Output.toJson`, `Output.ofJson?`: what is shown.
* `Snapshot.toJson`, `Snapshot.ofJson?`: the state of a conversation.
-/

namespace DialogueTree

namespace Answer

/-- The JSON of an answer. -/
def toJson (a : Answer) : Json := .record [("index", .int a.index), ("text", .text a.text)]

/-- The answer that a JSON value gives. -/
def ofJson? (j : Json) : Option Answer := do
  match ← j.fields? ["index", "text"] with
  | [index, text] => return ⟨← Json.required Json.index? index, ← Json.required Json.text? text⟩
  | _ => none

end Answer

namespace Output

/-- The JSON of what is shown. -/
def toJson : Output → Json
  | .dialogue text => .record [("kind", .text "dialogue"), ("text", .text text)]
  | .branch question answers =>
    .record [("kind", .text "branch"), ("question", .text question),
      ("answers", .ofList Answer.toJson answers)]
  | .finish => .record [("kind", .text "end")]

/-- What is shown according to a JSON value. -/
def ofJson? (j : Json) : Option Output := do
  let (kind, fields) ← j.tagged? 0
  match kind with
  | "dialogue" => match ← fields.fields? ["text"] with
    | [text] => return .dialogue (← Json.required Json.text? text)
    | _ => none
  | "branch" => match ← fields.fields? ["question", "answers"] with
    | [question, answers] =>
      return .branch (← Json.required Json.text? question)
        (← Json.required (Json.list? Answer.ofJson?) answers)
    | _ => none
  | "end" => if fields.isFieldless then some .finish else none
  | _ => none

end Output

namespace Snapshot

/-- The JSON of a snapshot. -/
def toJson (s : Snapshot) : Json :=
  .record [("schemaVersion", .text s.schema), ("treeName", .text s.tree),
    ("cursor", .int s.cursor), ("defaultStartId", .int s.defaultStart.toInt),
    ("speaker", s.speaker.toJson), ("pendingRevert", .ofOption Speaker.toJson s.pending),
    ("speakerChanged", .bool s.speakerChanged), ("locals", s.locals.toJson),
    ("globals", s.globals.toJson)]

/-- The snapshot that a JSON value gives. -/
def ofJson? (j : Json) : Option Snapshot := do
  match ← j.fields? ["schemaVersion", "treeName", "cursor", "defaultStartId", "speaker",
      "pendingRevert", "speakerChanged", "locals", "globals"] with
  | [schema, tree, cursor, start, speaker, pending, changed, locals, globals] =>
    return {
      schema := ← Json.required Json.text? schema
      tree := ← Json.required Json.text? tree
      cursor := ← Json.required Json.index? cursor
      defaultStart := ← Json.required Json.int32? start
      speaker := ← Json.required Speaker.ofJson? speaker
      pending := ← Json.optional Speaker.ofJson? pending
      speakerChanged := ← Json.required Json.bool? changed
      locals := ← Json.required Store.ofJson? locals
      globals := ← Json.required Store.ofJson? globals }
  | _ => none

end Snapshot

end DialogueTree
