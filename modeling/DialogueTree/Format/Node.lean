import DialogueTree.Format.Variable
import DialogueTree.Node.Basic

/-!
# The JSON of nodes

A node is one object: its index, its kind, what nodes of this kind hold, and its links. The fields
of its kind are kept until the kind is known, so they must all be legible and not nested too deep,
also those that nodes of the kind do not have.

* `Node.toJson`, `Node.ofJson?`: a node.
* `Content.toJson`, `Content.ofJson?`: a content by itself, also as an array that starts with its
  kind.
-/

namespace DialogueTree

namespace Speaker

/-- The JSON of a speaker. -/
def toJson (s : Speaker) : Json :=
  .record [("name", .text s.name), ("sprite", .ofOption .text s.sprite)]

/-- The speaker that a JSON value gives. -/
def ofJson? (j : Json) : Option Speaker := do
  match ← j.fields? ["name", "sprite"] with
  | [name, sprite] =>
    return ⟨← Json.required Json.text? name, ← Json.optional Json.text? sprite⟩
  | _ => none

end Speaker

namespace Link

/-- The JSON of a link. -/
def toJson (l : Link) : Json := .record [("node", .int l.node), ("slot", .int l.slot)]

/-- The link that a JSON value gives. -/
def ofJson? (j : Json) : Option Link := do
  match ← j.fields? ["node", "slot"] with
  | [node, slot] => return ⟨← Json.required Json.index? node, ← Json.required Json.index? slot⟩
  | _ => none

end Link

namespace Comparison

/-- All comparisons, in the order of their codes. -/
def all : List Comparison :=
  [.equals, .notEquals, .greater, .greaterOrEqual, .less, .lessOrEqual, .and, .or]

/-- The name of a comparison in JSON. -/
def key : Comparison → String
  | .equals => "equals"
  | .notEquals => "notEquals"
  | .greater => "greater"
  | .greaterOrEqual => "greaterOrEqual"
  | .less => "less"
  | .lessOrEqual => "lessOrEqual"
  | .and => "and"
  | .or => "or"

/-- The JSON of a comparison. -/
def toJson (c : Comparison) : Json := .text c.key

/-- The comparison that a JSON value names. -/
def ofJson? (kept : Bool) : Json → Option Comparison :=
  Json.choice? (all.map fun c => (c.key, c)) kept

end Comparison

namespace Change

/-- All changes, in the order of their codes. -/
def all : List Change := [.set, .add, .subtract, .multiply, .divide]

/-- The name of a change in JSON. -/
def key : Change → String
  | .set => "set"
  | .add => "add"
  | .subtract => "subtract"
  | .multiply => "multiply"
  | .divide => "divide"

/-- The JSON of a change. -/
def toJson (c : Change) : Json := .text c.key

/-- The change that a JSON value names. -/
def ofJson? (kept : Bool) : Json → Option Change :=
  Json.choice? (all.map fun c => (c.key, c)) kept

end Change

namespace NodeType

/-- The name of a kind in JSON. -/
def key : NodeType → String
  | .info => "info"
  | .start => "start"
  | .finish => "end"
  | .dialogue => "dialogue"
  | .branch => "branch"
  | .variable => "variable"
  | .logic => "logic"
  | .edit => "edit_variable"
  | .comment => "comment"
  | .newSpeaker => "new_speaker"
  | .startChange => "start_change"
  | .teleport => "teleport_flow"

/-- The kind with a name in JSON. -/
def ofKey? (key : String) : Option NodeType := all.find? (·.key == key)

/-- The JSON of a kind. -/
def toJson (t : NodeType) : Json := .text t.key

/-- The kind that a JSON value names. -/
def ofJson? (kept : Bool) : Json → Option NodeType :=
  Json.choice? (all.map fun t => (t.key, t)) kept

/-- The kind of a node that its field `kind` gives: a name, or the number of a kind. -/
def ofField? : Json → Option NodeType
  | .string (some key) => ofKey? key
  | .number n => n.toIndex?.bind fun i => all[i]?
  | _ => none

end NodeType

/-! ## Tagged records -/

namespace Json

/-- The fields of a record that names its kind, and the kind: an object with a member `kind`, or
an array whose first item is the kind. All fields are kept until the kind is known. -/
def tagged? (enclosing : Nat) : Json → Option (String × Json)
  | .object members => do
    let kind ← required text? (← member? "kind" members)
    guard (members.all fun m =>
      m.1 == some "kind" || m.1.isSome && m.2.canKeep (enclosing + 1))
    return (kind, .object members)
  | .array (.string (some kind) :: items) => do
    guard (items.all (·.canKeep (enclosing + 1)))
    return (kind, .array items)
  | _ => none

/-- Whether a value can be the fields of a kind that has none. -/
def isFieldless : Json → Bool
  | .object _ | .array [] => true
  | _ => false

end Json

namespace Content

/-- The fields of a content. -/
def fields : Content → List (String × Json)
  | .info speaker => [("speaker", speaker.toJson)]
  | .start id => [("startId", .int id.toInt)]
  | .finish => []
  | .dialogue text override =>
    [("text", .text text), ("advanced", .ofOption Speaker.toJson override)]
  | .branch inPins outPins => [("inPins", .int inPins), ("outPins", .int outPins)]
  | .variable position type isGlobal =>
    [("varIndex", .int position), ("varType", type.toJson), ("isGlobal", .bool isGlobal)]
  | .logic type comparison a b =>
    [("varType", type.toJson), ("equation", comparison.toJson), ("a", a.toJson), ("b", b.toJson)]
  | .edit type change b =>
    [("varType", type.toJson), ("equation", change.toJson), ("b", b.toJson)]
  | .comment text => [("text", .text text)]
  | .newSpeaker speaker => [("speaker", speaker.toJson)]
  | .startChange id => [("startId", .int id.toInt)]
  | .teleport isIn id => [("isIn", .bool isIn), ("teleportId", .int id.toInt)]

/-- The names of the fields of a kind. -/
def fieldNames : NodeType → List String
  | .info | .newSpeaker => ["speaker"]
  | .start | .startChange => ["startId"]
  | .finish => []
  | .dialogue => ["text", "advanced"]
  | .branch => ["inPins", "outPins"]
  | .variable => ["varIndex", "varType", "isGlobal"]
  | .logic => ["varType", "equation", "a", "b"]
  | .edit => ["varType", "equation", "b"]
  | .comment => ["text"]
  | .teleport => ["isIn", "teleportId"]

/-- The content of a kind that some fields give. -/
def ofFields? : NodeType → List (Option Json) → Option Content
  | .info, [speaker] => return .info (← Json.defaulted {} Speaker.ofJson? speaker)
  | .start, [id] => return .start (← Json.required Json.int32? id)
  | .finish, [] => return .finish
  | .dialogue, [text, override] =>
    return .dialogue (← Json.defaulted "" Json.text? text)
      (← Json.optional Speaker.ofJson? override)
  | .branch, [inPins, outPins] =>
    return .branch (← Json.defaulted 3 Json.index? inPins) (← Json.defaulted 2 Json.index? outPins)
  | .variable, [position, type, isGlobal] =>
    return .variable (← Json.required Json.index? position)
      (← Json.required (ValueType.ofJson? true) type) (← Json.defaulted false Json.bool? isGlobal)
  | .logic, [type, comparison, a, b] =>
    return .logic (← Json.required (ValueType.ofJson? true) type)
      (← Json.required (Comparison.ofJson? true) comparison)
      (← Json.defaulted {} Slots.ofJson? a) (← Json.defaulted {} Slots.ofJson? b)
  | .edit, [type, change, b] =>
    return .edit (← Json.required (ValueType.ofJson? true) type)
      (← Json.required (Change.ofJson? true) change) (← Json.defaulted {} Slots.ofJson? b)
  | .comment, [text] => return .comment (← Json.defaulted "" Json.text? text)
  | .newSpeaker, [speaker] => return .newSpeaker (← Json.required Speaker.ofJson? speaker)
  | .startChange, [id] => return .startChange (← Json.required Json.int32? id)
  | .teleport, [isIn, id] =>
    return .teleport (← Json.required Json.bool? isIn) (← Json.required Json.int32? id)
  | _, _ => none

/-- The content of a kind whose fields are those of a JSON value. -/
def ofRecord? (t : NodeType) (j : Json) : Option Content :=
  match t with
  | .finish => if j.isFieldless then some .finish else none
  | t => do ofFields? t (← j.fields? (fieldNames t))

/-- The JSON of a content. -/
def toJson (c : Content) : Json := .record (("kind", c.type.toJson) :: c.fields)

/-- The content that a JSON value gives. -/
def ofJson? (j : Json) : Option Content := do
  let (kind, fields) ← j.tagged? 0
  ofRecord? (← NodeType.ofKey? kind) fields

end Content

namespace Node

/-- The JSON of a node. -/
def toJson (n : Node) : Json :=
  .record ([("index", .int n.index), ("kind", n.type.toJson)] ++ n.content.fields ++
    [("inputs", .ofList Link.toJson n.inputs), ("outputs", .ofList Link.toJson n.outputs)])

/-- The names of the fields that all nodes have besides their kind. -/
def ownFields : List Literal := [some "index", some "inputs", some "outputs"]

/-- The node that a JSON value under `enclosing` arrays and objects gives. -/
def ofJson? (enclosing : Nat) : Json → Option Node
  | .object members => do
    guard (members.all fun m =>
      ownFields.contains m.1 || m.1.isSome && m.2.canKeep (enclosing + 1))
    let index ← Json.required Json.index? (← Json.member? "index" members)
    let kind ← Json.required NodeType.ofField? (← Json.member? "kind" members)
    let content ← Content.ofRecord? kind (.object members)
    let inputs ← Json.defaulted [] (Json.list? Link.ofJson?) (← Json.member? "inputs" members)
    let outputs ← Json.defaulted [] (Json.list? Link.ofJson?) (← Json.member? "outputs" members)
    return ⟨index, content, inputs, outputs⟩
  | _ => none

end Node

end DialogueTree
