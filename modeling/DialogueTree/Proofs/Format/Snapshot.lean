import DialogueTree.Format.Conversation
import DialogueTree.Proofs.Format.Node

/-!
# Snapshots read back

A snapshot that has been written in JSON is read as what it was if its cursor is an index of 64
bits and the floats of its variables read back. With a float that is not finite it cannot be read
at all.

Results:
* `Snapshot.ofJson?_toJson`: a snapshot that reads back.
* `Snapshot.exists_ofJson?`, `Snapshot.ofJson?_eq_none`: a snapshot can be read if and only if all
  its floats are finite.
-/

namespace DialogueTree

namespace Speaker

theorem ofJson?_toJson (s : Speaker) : ofJson? s.toJson = some s :=
  ofJson?_of_written s.written_toJson

theorem optional_ofOption (s : Option Speaker) :
    Json.optional ofJson? (some (.ofOption toJson s)) = some s := by
  cases s with
  | none => rfl
  | some s =>
    have hread : Json.optional ofJson? (some s.toJson) = (ofJson? s.toJson).map some := rfl
    rw [Json.ofOption, hread, ofJson?_toJson, Option.map_some]

end Speaker

namespace Snapshot

/-- The names of the fields of a snapshot. -/
def fieldNames : List String :=
  ["schemaVersion", "treeName", "cursor", "defaultStartId", "speaker", "pendingRevert",
    "speakerChanged", "locals", "globals"]

/-- What is written for the fields of a snapshot. -/
def fields (s : Snapshot) : List (Option Json) :=
  [some (.text s.schema), some (.text s.tree), some (.int s.cursor),
    some (.int s.defaultStart.toInt), some s.speaker.toJson,
    some (.ofOption Speaker.toJson s.pending), some (.bool s.speakerChanged),
    some s.locals.toJson, some s.globals.toJson]

theorem fields?_toJson (s : Snapshot) : s.toJson.fields? fieldNames = some s.fields :=
  Json.fields?_record
    [("schemaVersion", .text s.schema), ("treeName", .text s.tree),
      ("cursor", .int s.cursor), ("defaultStartId", .int s.defaultStart.toInt),
      ("speaker", s.speaker.toJson), ("pendingRevert", .ofOption Speaker.toJson s.pending),
      ("speakerChanged", .bool s.speakerChanged), ("locals", s.locals.toJson),
      ("globals", s.globals.toJson)]
    (by decide : fieldNames.Nodup)

/-- Whether the floats of the variables in a snapshot read back. -/
def ReadsBack (s : Snapshot) : Prop := s.locals.ReadsBack ∧ s.globals.ReadsBack

/-- Whether the floats of the variables in a snapshot are finite. -/
def IsFinite (s : Snapshot) : Prop := s.locals.IsFinite ∧ s.globals.IsFinite

variable {s : Snapshot}

/-- What a snapshot that has been written is read as, part by part. -/
theorem ofJson?_toJson_eq (hcursor : s.cursor < indexLimit) : ofJson? s.toJson = do
    let locals ← Store.ofJson? s.locals.toJson
    let globals ← Store.ofJson? s.globals.toJson
    return { s with locals := locals, globals := globals } := by
  have hfields : s.toJson.fields? ["schemaVersion", "treeName", "cursor", "defaultStartId",
      "speaker", "pendingRevert", "speakerChanged", "locals", "globals"] = some s.fields :=
    s.fields?_toJson
  unfold ofJson?
  rw [hfields, Option.bind_eq_bind, Option.bind_some]
  simp only [fields, Json.required_some, Json.index?_int hcursor, Json.int32?_int,
    Speaker.ofJson?_toJson, Speaker.optional_ofOption, Option.bind_eq_bind, Option.bind_some]
  simp only [Json.text, Json.text?, Json.bool?, Option.bind_some]

/-- A snapshot that reads back. -/
theorem ofJson?_toJson (hcursor : s.cursor < indexLimit) (h : s.ReadsBack) :
    ofJson? s.toJson = some s := by
  rw [ofJson?_toJson_eq hcursor, Store.ofJson?_toJson h.1, Store.ofJson?_toJson h.2]
  rfl

/-- A snapshot whose floats are finite can be read; nothing else in it is lost. -/
theorem exists_ofJson? (hcursor : s.cursor < indexLimit) (h : s.IsFinite) :
    ∃ locals globals, ofJson? s.toJson = some { s with locals := locals, globals := globals } := by
  obtain ⟨locals, hlocals⟩ := Store.exists_ofJson? h.1
  obtain ⟨globals, hglobals⟩ := Store.exists_ofJson? h.2
  rw [ofJson?_toJson_eq hcursor, hlocals, hglobals]
  exact ⟨locals, globals, rfl⟩

/-- A snapshot with a float that is not finite cannot be read. -/
theorem ofJson?_eq_none (hcursor : s.cursor < indexLimit) (h : ¬s.IsFinite) :
    ofJson? s.toJson = none := by
  rw [ofJson?_toJson_eq hcursor]
  by_cases hlocals : s.locals.IsFinite
  · have hglobals : ¬s.globals.IsFinite := fun hg => h ⟨hlocals, hg⟩
    rw [Store.ofJson?_eq_none hglobals]
    cases Store.ofJson? s.locals.toJson <;> rfl
  · rw [Store.ofJson?_eq_none hlocals]
    rfl

end Snapshot

end DialogueTree
