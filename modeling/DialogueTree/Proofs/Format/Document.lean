import DialogueTree.Library.Sources
import DialogueTree.Proofs.Format.Node
import DialogueTree.Proofs.Json.RoundTrip

/-!
# Documents read back

The text of a document gives the document again if all its indices are of 64 bits and its floats
read back, and so does the text of what is left when members are taken out that hold the default of
their field: its declared variables, the links of a node, a slot of an operand, or all of it.

Results:
* `Variable.ofJson?_of_written`, `Document.ofJson?_of_written`: declared variables and documents.
* `Document.parse_of_written`: the texts of a document.
-/

namespace DialogueTree

open Json (Field)

/-! ## Declared variables -/

namespace Variable

variable {v : Variable} {j : Json}

/-- The fields of a variable as they may be written. -/
def writtenFields (v : Variable) : List Field :=
  .plain "name" (.text v.name) False :: v.slots.writtenFields

/-- Whether a value may be written for a variable. -/
def Written (v : Variable) : Json → Prop := Json.IsRecord v.writtenFields

theorem written_toJson (v : Variable) : v.Written v.toJson :=
  ⟨_, .write rfl v.slots.members_fields, rfl⟩

theorem ofJson?_of_written (hback : Json.ReadsBack v.slots.float) (h : v.Written j) :
    ofJson? j = some v := by
  obtain ⟨os, hfields, hgives⟩ :=
    h.fields? (by decide : ("name" :: Slots.fieldNames).Nodup) (List.Subset.refl _)
  have hfields : j.fields? ("name" :: Slots.fieldNames) = some os := hfields
  rcases hgives with _ | ⟨hname, hslots⟩
  rw [ofJson?, hfields, Option.bind_eq_bind, Option.bind_some]
  dsimp only
  rw [Json.required_of_plain hname (Json.text?_text _), Slots.ofFields?_of_gives hback hslots]
  rfl

end Variable

namespace Document

variable {d : Document} {j : Json}

/-! ## Documents -/

/-- The fields of a document as they may be written. -/
def writtenFields (d : Document) : List Field :=
  [.plain "name" (.text d.name) False,
    .plain "defaultStartId" (.int d.defaultStart.toInt) (d.defaultStart = 0),
    ⟨"variables", Json.IsList Variable.Written d.declared, d.declared = []⟩,
    ⟨"nodes", Json.IsList Node.Written d.nodes, False⟩]

/-- Whether a value may be written for a document. -/
def Written (d : Document) : Json → Prop := Json.IsRecord d.writtenFields

/-- Whether all indices in a document are of 64 bits. -/
def IsIndexed (d : Document) : Prop := ∀ n ∈ d.nodes, n.IsIndexed

/-- Whether the floats in a document read back. -/
structure ReadsBack (d : Document) : Prop where
  declared : ∀ v ∈ d.declared, Json.ReadsBack v.slots.float
  nodes : ∀ n ∈ d.nodes, n.content.ReadsBack

theorem written_toJson (d : Document) : d.Written d.toJson :=
  ⟨_, .write rfl (.write rfl
    (.write (Json.isList_ofList fun v _ => v.written_toJson)
      (.write (Json.isList_ofList fun n _ => n.written_toJson) .nil))), rfl⟩

/-- A document is read as what it was, with whatever members left out that hold their default. -/
theorem ofJson?_of_written (hindex : d.IsIndexed) (hback : d.ReadsBack) (h : d.Written j) :
    ofJson? j = some d := by
  obtain ⟨os, hfields, hgives⟩ := h.fields?
    (by decide : ["name", "defaultStartId", "variables", "nodes"].Nodup) (List.Subset.refl _)
  rcases hgives with _ | ⟨hname, _ | ⟨hstart, _ | ⟨hdeclared, _ | ⟨hnodes, _ | _⟩⟩⟩⟩
  have hfields : j.fields? ["name", "defaultStartId", "variables", "nodes"] = some _ := hfields
  have hdeclaredRead := Json.defaulted_of_gives hdeclared id fun j hj =>
    hj.list?_eq fun v hv _ hj => Variable.ofJson?_of_written (hback.declared v hv) hj
  have hnodesRead := Json.required_of_gives hnodes id fun j hj =>
    hj.list?_eq fun n hn _ hj =>
      Node.ofJson?_of_written (by decide : nodeNesting + 2 ≤ Json.depthLimit) (hindex n hn)
        (hback.nodes n hn) hj
  rw [ofJson?, hfields, Option.bind_eq_bind, Option.bind_some]
  dsimp only
  rw [Json.required_of_plain hname (Json.text?_text _),
    Json.defaulted_of_plain hstart id (Json.int32?_int _), hdeclaredRead, hnodesRead]
  rfl

/-! ## Texts -/

/-- The text of a document gives the document, and so do the texts where members are left out that
hold their default. -/
theorem parse_of_written (hindex : d.IsIndexed) (hback : d.ReadsBack) {sp : Json.Spacing}
    (hsp : sp.IsBlank) (path : String) :
    parse path (String.ofList (d.toJson.chars sp 0)) = .ok d ∧
    ∀ j, d.Written j → parse path (String.ofList (j.chars sp 0)) = .ok d := by
  have hparse (j : Json) (hj : d.Written j) :
      parse path (String.ofList (j.chars sp 0)) = .ok d := by
    rw [parse, parse?, Json.parse?, String.toList_ofList, Json.parseChars?_chars hsp,
      Option.bind_eq_bind, Option.bind_some, ofJson?_of_written hindex hback hj]
  exact ⟨hparse _ d.written_toJson, hparse⟩

/-- A toll that is raised by half each time it is asked. -/
def toll : Document where
  name := "Toll"
  declared := [{ name := "toll", slots := { float := 2.5 } }]
  nodes := [
    ⟨0, .info {}, [], []⟩,
    ⟨1, .start 0, [], [⟨2, 0⟩]⟩,
    ⟨2, .edit .float .multiply { float := 1.5 }, [⟨1, 0⟩, ⟨3, 1⟩], [⟨4, 0⟩]⟩,
    ⟨3, .variable 0 .float false, [], [⟨2, 1⟩]⟩,
    ⟨4, .branch 3 2, [⟨2, 0⟩], []⟩]

/-- The toll with all members left out that hold their default. -/
def bareToll : Json :=
  .record [("name", .text "Toll"),
    ("variables", .array [.record [("name", .text "toll"), ("float", .float32 2.5)]]),
    ("nodes", .array [
      .record [("index", .int 0), ("kind", .text "info")],
      .record [("index", .int 1), ("kind", .text "start"), ("startId", .int 0),
        ("outputs", .ofList Link.toJson [⟨2, 0⟩])],
      .record [("index", .int 2), ("kind", .text "edit_variable"), ("varType", .text "float"),
        ("equation", .text "multiply"), ("b", .record [("float", .float32 1.5)]),
        ("inputs", .ofList Link.toJson [⟨1, 0⟩, ⟨3, 1⟩]),
        ("outputs", .ofList Link.toJson [⟨4, 0⟩])],
      .record [("index", .int 3), ("kind", .text "variable"), ("varIndex", .int 0),
        ("varType", .text "float"), ("outputs", .ofList Link.toJson [⟨2, 1⟩])],
      .record [("index", .int 4), ("kind", .text "branch"),
        ("inputs", .ofList Link.toJson [⟨2, 0⟩])]])]

theorem written_bareToll : toll.Written bareToll := by
  have hslots {x : Float32} :
      Json.Members (Slots.writtenFields { float := x }) [("float", .float32 x)] :=
    .leaveOut rfl (.leaveOut rfl (.write rfl (.leaveOut rfl .nil)))
  refine ⟨_, .write rfl (.leaveOut rfl (.write ⟨_, .cons ?declared .nil, rfl⟩ (.write ⟨_,
    .cons ?info (.cons ?start (.cons ?edit (.cons ?«variable» (.cons ?branch .nil)))), rfl⟩ .nil))),
    rfl⟩
  case declared => exact ⟨_, .write rfl hslots, rfl⟩
  case info =>
    exact ⟨_, .write rfl (.write rfl (.leaveOut rfl (.leaveOut rfl (.leaveOut rfl .nil)))), rfl⟩
  case start =>
    exact ⟨_, .write rfl (.write rfl (.write rfl (.leaveOut rfl (.write rfl .nil)))), rfl⟩
  case edit =>
    exact ⟨_, .write rfl (.write rfl (.write rfl (.write rfl (.write ⟨_, hslots, rfl⟩
      (.write rfl (.write rfl .nil)))))), rfl⟩
  case «variable» =>
    exact ⟨_, .write rfl (.write rfl (.write rfl (.write rfl (.leaveOut rfl (.leaveOut rfl
      (.write rfl .nil)))))), rfl⟩
  case branch =>
    exact ⟨_, .write rfl (.write rfl (.leaveOut rfl (.leaveOut rfl (.write rfl (.leaveOut rfl
      .nil))))), rfl⟩

/-- The toll is read from its whole text and from its shortest. -/
theorem parse_toll :
    parse "toll.json" toll.toJson.compact = .ok toll ∧
    parse "toll.json" bareToll.compact = .ok toll := by
  have hindices : toll.IsIndexed := by
    intro n hn
    simp only [toll, List.mem_cons, List.not_mem_nil, or_false] at hn
    rcases hn with rfl | rfl | rfl | rfl | rfl <;>
      constructor <;> simp [Content.IsIndexed, Link.IsIndexed, indexLimit]
  have hfloats : toll.ReadsBack := by
    have hback : Json.ReadsBack 2.5 ∧ Json.ReadsBack 1.5 := by
      unfold Json.ReadsBack
      decide +kernel
    refine ⟨fun v hv => ?_, ?_⟩
    · obtain rfl := List.mem_singleton.mp hv
      exact hback.1
    · simp [toll, Content.ReadsBack, hback.2]
  have hread := parse_of_written hindices hfloats Json.Spacing.isBlank_none "toll.json"
  exact ⟨hread.1, hread.2 _ written_bareToll⟩

end Document

end DialogueTree
