import DialogueTree.Player.Save
import DialogueTree.Proofs.Disk.Programs
import DialogueTree.Proofs.Format.Snapshot
import DialogueTree.Proofs.Json.RoundTrip

/-!
# Saved states read back

The text of a saved state is read as the state that was saved, if its snapshot reads back; with a
float in it that is not finite it is not the text of a saved state. The same holds of the file that
a state is saved in.

Results:
* `Save.isIn_text`: what the text of a saved state holds.
* `Save.parse?_text`, `Save.exists_parse?_text`, `Save.parse?_text_eq_none`: what it is read as.
* `Save.exec_write_cases`, `Save.exec_read`: the file of a saved state.
* `Save.exec_read_of_exec_write`: what has been saved is read as what it was.
-/

namespace DialogueTree

open FileTree

namespace Save

variable {s : Save} {p : Path} {t : FileTree}

theorem fields?_toJson (s : Save) : s.toJson.fields? ["schemaVersion", "libraryId", "snapshot"] =
    some [some (.text s.schema), some (.text s.libraryId), some s.snapshot.toJson] :=
  Json.fields?_record [("schemaVersion", .text s.schema), ("libraryId", .text s.libraryId),
      ("snapshot", s.snapshot.toJson)]
    (by decide : ["schemaVersion", "libraryId", "snapshot"].Nodup)

/-- Whether a text is a JSON object that holds a saved state: its form, the id of its library and a
snapshot, and in that one each field of the snapshot. -/
def IsIn (s : Save) (text : String) : Prop :=
  ∃ j snapshot, Json.parse? text = some j ∧
    j.fields? ["schemaVersion", "libraryId", "snapshot"] =
      some [some (.text s.schema), some (.text s.libraryId), some snapshot] ∧
    snapshot.fields? Snapshot.fieldNames = some s.snapshot.fields

theorem isIn_text (s : Save) : s.IsIn s.text :=
  ⟨s.toJson, s.snapshot.toJson, Json.parse?_pretty s.toJson, s.fields?_toJson,
    s.snapshot.fields?_toJson⟩

/-- What a saved state is read as, given what its fields are read as. -/
theorem ofJson?_of_fields {j schema id snapshot : Json} {a b : String}
    (h : j.fields? ["schemaVersion", "libraryId", "snapshot"] =
      some [some schema, some id, some snapshot])
    (ha : schema.text? = some a) (hb : id.text? = some b) :
    ofJson? j = (Snapshot.ofJson? snapshot).map fun snapshot => ⟨a, b, snapshot⟩ := by
  unfold ofJson?
  rw [h, Option.bind_eq_bind, Option.bind_some]
  dsimp only
  rw [Json.required_some, Json.required_some, Json.required_some, ha, hb]
  cases Snapshot.ofJson? snapshot <;> rfl

/-- What the text of a saved state is read as, up to its snapshot. -/
theorem parse?_text_eq (s : Save) : parse? s.text =
    (Snapshot.ofJson? s.snapshot.toJson).map fun snapshot => ⟨s.schema, s.libraryId, snapshot⟩ := by
  unfold parse? text
  rw [Json.parse?_pretty, Option.bind_eq_bind, Option.bind_some]
  exact ofJson?_of_fields s.fields?_toJson rfl rfl

/-- A saved state that reads back. -/
theorem parse?_text (hcursor : s.snapshot.cursor < indexLimit) (h : s.snapshot.ReadsBack) :
    parse? s.text = some s := by
  rw [parse?_text_eq, Snapshot.ofJson?_toJson hcursor h]
  rfl

/-- A saved state whose floats are finite can be read; only the floats may have changed. -/
theorem exists_parse?_text (hcursor : s.snapshot.cursor < indexLimit)
    (h : s.snapshot.IsFinite) : ∃ locals globals, parse? s.text =
      some { s with snapshot := { s.snapshot with locals := locals, globals := globals } } := by
  obtain ⟨locals, globals, hread⟩ := Snapshot.exists_ofJson? hcursor h
  rw [parse?_text_eq, hread]
  exact ⟨locals, globals, rfl⟩

/-- A saved state with a float that is not finite. -/
theorem parse?_text_eq_none (hcursor : s.snapshot.cursor < indexLimit)
    (h : ¬s.snapshot.IsFinite) : parse? s.text = none := by
  rw [parse?_text_eq, Snapshot.ofJson?_eq_none hcursor h]
  rfl

/-! ## Files -/

/-- Whether a file holds a saved state. -/
def IsAt (s : Save) (p : Path) (t : FileTree) : Prop :=
  t.kind? p = some .file ∧ t.readText? p = some s.text

/-- What saving a state does. -/
theorem exec_write (s : Save) (p : Path) (t : FileTree) :
    t.exec (s.write p) = match t.makeParent p with
      | (false, t₁) => (.error (.saveUnwritable p), t₁)
      | (true, t₁) => match t₁.write? p s.text with
        | none => (.error (.saveUnwritable p), t₁)
        | some t₂ => (.ok (), t₂) := by
  unfold write
  rw [exec_bind, exec_makeParent]
  rcases t.makeParent p with ⟨made, t₁⟩
  cases made with
  | false => rfl
  | true =>
    dsimp only
    rw [if_pos rfl, exec_bind, FileTree.exec_write]
    cases t₁.write? p s.text <;> rfl

/-- A state has been saved in its file, or it is told that it could not be. -/
theorem exec_write_cases (s : Save) (p : Path) (t : FileTree) :
    (∃ t', t.exec (s.write p) = (.ok (), t') ∧ s.IsAt p t') ∨
      ∃ t', t.exec (s.write p) = (.error (.saveUnwritable p), t') := by
  rw [exec_write]
  rcases t.makeParent p with ⟨made, t₁⟩
  cases made with
  | false => exact .inr ⟨t₁, rfl⟩
  | true =>
    dsimp only
    cases hwrite : t₁.write? p s.text with
    | none => exact .inr ⟨t₁, rfl⟩
    | some t₂ => exact .inl ⟨t₂, rfl, readText?_of_write? hwrite⟩

theorem reads_read (p : Path) :
    Reads (read p : ExceptT PlayerError (StateM FileTree) Save) := by
  unfold read
  refine Reads.bind (fun _ => rfl) fun there => ?_
  cases there with
  | false => exact fun _ => rfl
  | true =>
    refine Reads.bind (x := Disk.readText? p) (fun _ => rfl) fun text => ?_
    cases text with
    | none => exact reads_throw _
    | some text =>
      dsimp only
      cases parse? text with
      | none => exact reads_throw _
      | some s =>
        dsimp only
        split
        · exact reads_pure _
        · exact reads_throw _

/-- What is read from the file of a saved state. -/
theorem exec_read (h : s.IsAt p t) : t.exec (read p) = match parse? s.text with
    | none => (.error (.saveInvalid p), t)
    | some found =>
      (if found.schema = saveSchema then .ok found else .error (.saveSchema found.schema), t) := by
  unfold read
  rw [exec_bind, exec_isThere, h.1]
  dsimp only [Option.isSome]
  rw [Bool.not_true, if_neg Bool.false_ne_true, exec_bind, exec_readText?, h.2]
  dsimp only
  cases parse? s.text with
  | none => rfl
  | some found =>
    dsimp only
    by_cases hschema : found.schema = saveSchema
    · rw [if_pos hschema, if_pos hschema]
      rfl
    · rw [if_neg hschema, if_neg hschema]
      rfl

/-- A state that could be saved is read from its file as what it was, if its cursor is an index of
64 bits and the floats of its variables read back. -/
theorem exec_read_of_exec_write {t' : FileTree} (hschema : s.schema = saveSchema)
    (hcursor : s.snapshot.cursor < indexLimit) (h : s.snapshot.ReadsBack)
    (hwrite : t.exec (s.write p) = (.ok (), t')) : t'.exec (read p) = (.ok s, t') := by
  obtain ⟨written, hok, hat⟩ | ⟨_, herror⟩ := s.exec_write_cases p t
  · obtain rfl : written = t' := congrArg Prod.snd (hok.symm.trans hwrite)
    rw [exec_read hat, parse?_text hcursor h]
    dsimp only
    rw [if_pos hschema]
  · cases herror.symm.trans hwrite

/-- A state with quotation marks, control characters and other scripts in its texts, and with a
speaker who is to return. -/
def polyglot : Save where
  libraryId := "trees-dir:/\"tales\"\n"
  snapshot :=
    { schema := snapshotSchema
      tree := "Ďábel \\ диявол"
      cursor := 7
      defaultStart := -3
      speaker := { name := "悪魔\t", sprite := some "demon.png" }
      pending := some { name := "Ann\x07" }
      speakerChanged := true
      locals := ⟨[{ name := "price", slots := { int := -1, float := 1.5, text := "½ 🪙" } }]⟩
      globals := ⟨[{ name := "mood", slots := { bool := true } }]⟩ }

/-- It is saved in a directory that is not there yet, and read again. -/
theorem exec_read_polyglot : ∃ t',
    FileTree.exec {} (polyglot.write "saves/one.json") = (.ok (), t') ∧
    t'.exec (read "saves/one.json") = (.ok polyglot, t') := by
  have hplace : Path.isValid "saves/one.json" = true ∧
      Path.pieces "saves/one.json" = ["saves", "one.json"] ∧ Path.isName "one.json" = true ∧
      FileTree.base ⟨[(["saves"], .directory)], []⟩ "saves/one.json" = [] ∧
      FileTree.makeParent {} "saves/one.json" = (true, ⟨[(["saves"], .directory)], []⟩) := by
    decide +kernel
  obtain ⟨hvalid, hpieces, hname, hbase, hmade⟩ := hplace
  have hfloats : polyglot.snapshot.ReadsBack := by
    have hback : Json.ReadsBack 1.5 ∧ Json.ReadsBack 0 := by
      unfold Json.ReadsBack
      decide +kernel
    constructor
    · intro v hv
      cases List.mem_singleton.mp hv
      exact hback.1
    · intro v hv
      cases List.mem_singleton.mp hv
      exact hback.2
  have hwrite : FileTree.exec {} (polyglot.write "saves/one.json") =
      (.ok (), ⟨[(["saves"], .directory), (["saves", "one.json"], .file (some polyglot.text))],
        []⟩) := by
    have htext : FileTree.write? ⟨[(["saves"], .directory)], []⟩ "saves/one.json" polyglot.text =
        some ⟨[(["saves"], .directory), (["saves", "one.json"], .file (some polyglot.text))],
          []⟩ := by
      refine write?_eq_some.mpr ⟨hvalid, "one.json", ["saves"], ?_, hname, ?_, by decide, by decide,
        rfl⟩
      · rw [hpieces]
        rfl
      · rw [hpieces, hbase]
        rfl
    rw [exec_write, hmade]
    dsimp only
    rw [htext]
  exact ⟨_, hwrite, exec_read_of_exec_write rfl (by decide) hfloats hwrite⟩

end Save

end DialogueTree
