import DialogueTree.Format.Node
import DialogueTree.Proofs.Format.Fields

/-!
# Nodes read back

A node is one object for its index, its kind, the fields of its kind and its links, and the fields
of its kind are kept as they are until the kind is known. Whatever members that hold their default
are left out of it, it is read as what it was, if all its indices are of 64 bits and the floats of
its operands read back.

Results:
* `Speaker.ofJson?_of_written`: speakers.
* `Content.ofRecord?_of_written`: the content of a node among its other fields.
* `Node.ofJson?_of_written`: nodes.
-/

namespace DialogueTree

open Json (Field)

/-! ## Speakers -/

namespace Speaker

variable {s : Speaker} {j : Json}

/-- The fields of a speaker as they may be written. -/
def writtenFields (s : Speaker) : List Field :=
  [.plain "name" (.text s.name) False,
    ⟨"sprite", Json.IsOption (fun sprite j => j = .text sprite) s.sprite, s.sprite = none⟩]

/-- Whether a value may be written for a speaker. -/
def Written (s : Speaker) : Json → Prop := Json.IsRecord s.writtenFields

theorem written_toJson (s : Speaker) : s.Written s.toJson := by
  obtain ⟨name, sprite⟩ := s
  cases sprite <;> exact ⟨_, .write rfl (.write rfl .nil), rfl⟩

theorem ofJson?_of_written (h : s.Written j) : ofJson? j = some s := by
  obtain ⟨os, hfields, hgives⟩ :=
    h.fields? (by decide : ["name", "sprite"].Nodup) (List.Subset.refl _)
  rcases hgives with _ | ⟨hname, _ | ⟨hsprite, _ | _⟩⟩
  have hfields : j.fields? ["name", "sprite"] = some _ := hfields
  rw [ofJson?, hfields, Option.bind_eq_bind, Option.bind_some]
  dsimp only
  rw [Json.required_of_plain hname (Json.text?_text _),
    Json.optional_of_gives hsprite rfl fun sprite j hj => hj ▸ Json.text?_text sprite]
  rfl

theorem isFlat_of_written (h : s.Written j) : j.IsFlat 1 := by
  refine h.isFlat fun f hf j hj => ?_
  rcases List.mem_pair.mp hf with rfl | rfl
  · obtain rfl : j = _ := hj
    exact Json.isFlat_text _
  · exact Json.isFlat_of_optionText hj

end Speaker

/-! ## Slots -/

namespace Slots

variable {s : Slots} {j : Json}

/-- The fields of slots as they may be written. -/
def writtenFields (s : Slots) : List Field :=
  [.plain "bool" (.bool s.bool) (s.bool = false), .plain "int" (.int s.int.toInt) (s.int = 0),
    .plain "float" (.float32 s.float) (s.float = 0), .plain "string" (.text s.text) (s.text = "")]

/-- Whether a value may be written for slots. -/
def Written (s : Slots) : Json → Prop := Json.IsRecord s.writtenFields

theorem members_fields (s : Slots) : Json.Members s.writtenFields s.fields :=
  .write rfl (.write rfl (.write rfl (.write rfl .nil)))

/-- What the fields of slots give, is read as what it was. -/
theorem ofFields?_of_gives (hback : Json.ReadsBack s.float) {os : List (Option Json)}
    (h : List.Forall₂ Field.Gives s.writtenFields os) : ofFields? os = some s := by
  rcases h with _ | ⟨hbool, _ | ⟨hint, _ | ⟨hfloat, _ | ⟨htext, _ | _⟩⟩⟩⟩
  unfold ofFields?
  dsimp only
  rw [Json.defaulted_of_plain hbool id (Json.bool?_bool _),
    Json.defaulted_of_plain hint id (Json.int32?_int _),
    Json.defaulted_of_plain hfloat id hback,
    Json.defaulted_of_plain htext id (Json.text?_text _)]
  rfl

theorem ofJson?_of_written (hback : Json.ReadsBack s.float) (h : s.Written j) :
    ofJson? j = some s := by
  obtain ⟨os, hfields, hgives⟩ :=
    h.fields? (by decide : fieldNames.Nodup) (List.Subset.refl _)
  have hfields : j.fields? fieldNames = some os := hfields
  rw [ofJson?, hfields, Option.bind_eq_bind, Option.bind_some]
  exact ofFields?_of_gives hback hgives

theorem isFlat_of_written (h : s.Written j) : j.IsFlat 1 := by
  refine h.isFlat fun f hf j hj => ?_
  simp only [writtenFields, List.mem_cons, List.not_mem_nil, or_false] at hf
  rcases hf with rfl | rfl | rfl | rfl <;> obtain rfl : j = _ := hj
  · exact Json.isFlat_bool _
  · exact Json.isFlat_int32 _
  · exact Json.isFlat_float32 _
  · exact Json.isFlat_text _

end Slots

/-! ## Contents -/

theorem ValueType.ofJson?_toJson (t : ValueType) : ofJson? true t.toJson = some t := by
  cases t <;> decide

theorem Comparison.ofJson?_toJson (c : Comparison) : ofJson? true c.toJson = some c := by
  cases c <;> decide

theorem Change.ofJson?_toJson (c : Change) : ofJson? true c.toJson = some c := by
  cases c <;> decide

theorem NodeType.ofField?_toJson (t : NodeType) : ofField? t.toJson = some t := by
  cases t <;> decide

namespace Content

variable {c : Content} {j : Json}

/-- The fields of a content as they may be written. -/
def writtenFields : Content → List Field
  | .info speaker => [⟨"speaker", speaker.Written, speaker = {}⟩]
  | .start id => [.plain "startId" (.int id.toInt) False]
  | .finish => []
  | .dialogue text override =>
    [.plain "text" (.text text) (text = ""),
      ⟨"advanced", Json.IsOption Speaker.Written override, override = none⟩]
  | .branch inPins outPins =>
    [.plain "inPins" (.int inPins) (inPins = 3), .plain "outPins" (.int outPins) (outPins = 2)]
  | .variable position type isGlobal =>
    [.plain "varIndex" (.int position) False, .plain "varType" type.toJson False,
      .plain "isGlobal" (.bool isGlobal) (isGlobal = false)]
  | .logic type comparison a b =>
    [.plain "varType" type.toJson False, .plain "equation" comparison.toJson False,
      ⟨"a", a.Written, a = {}⟩, ⟨"b", b.Written, b = {}⟩]
  | .edit type change b =>
    [.plain "varType" type.toJson False, .plain "equation" change.toJson False,
      ⟨"b", b.Written, b = {}⟩]
  | .comment text => [.plain "text" (.text text) (text = "")]
  | .newSpeaker speaker => [⟨"speaker", speaker.Written, False⟩]
  | .startChange id => [.plain "startId" (.int id.toInt) False]
  | .teleport isIn id =>
    [.plain "isIn" (.bool isIn) False, .plain "teleportId" (.int id.toInt) False]

/-- Whether the indices of a content are of 64 bits. -/
def IsIndexed : Content → Prop
  | .branch inPins outPins => inPins < indexLimit ∧ outPins < indexLimit
  | .variable position .. => position < indexLimit
  | _ => True

/-- Whether the floats of the operands of a content read back. -/
def ReadsBack : Content → Prop
  | .logic _ _ a b => Json.ReadsBack a.float ∧ Json.ReadsBack b.float
  | .edit _ _ b => Json.ReadsBack b.float
  | _ => True

theorem names_writtenFields (c : Content) :
    c.writtenFields.map (·.name) = fieldNames c.type := by
  cases c <;> rfl

theorem members_fields (c : Content) : Json.Members c.writtenFields c.fields := by
  cases c with
  | finish => exact .nil
  | info speaker | newSpeaker speaker => exact .write speaker.written_toJson .nil
  | start | comment | startChange => exact .write rfl .nil
  | branch | teleport => exact .write rfl (.write rfl .nil)
  | «variable» => exact .write rfl (.write rfl (.write rfl .nil))
  | dialogue text override =>
    cases override with
    | none => exact .write rfl (.write rfl .nil)
    | some speaker => exact .write rfl (.write speaker.written_toJson .nil)
  | logic type comparison a b =>
    exact .write rfl (.write rfl (.write ⟨_, a.members_fields, rfl⟩
      (.write ⟨_, b.members_fields, rfl⟩ .nil)))
  | edit type change b =>
    exact .write rfl (.write rfl (.write ⟨_, b.members_fields, rfl⟩ .nil))

/-- What the fields of a content give, is read as what it was. Nodes of the kind without fields do
not come here. -/
theorem ofFields?_of_gives (hindex : c.IsIndexed) (hback : c.ReadsBack) {os : List (Option Json)}
    (h : List.Forall₂ Field.Gives c.writtenFields os) : ofFields? c.type os = some c := by
  cases c with
  | info speaker =>
    rcases h with _ | ⟨hspeaker, _ | _⟩
    simp only [type, ofFields?]
    rw [Json.defaulted_of_gives hspeaker id fun j hj => Speaker.ofJson?_of_written hj]
    rfl
  | start id =>
    rcases h with _ | ⟨hid, _ | _⟩
    simp only [type, ofFields?]
    rw [Json.required_of_plain hid (Json.int32?_int id)]
    rfl
  | finish =>
    cases h
    rfl
  | dialogue text override =>
    rcases h with _ | ⟨htext, _ | ⟨hoverride, _ | _⟩⟩
    simp only [type, ofFields?]
    rw [Json.defaulted_of_plain htext id (Json.text?_text text),
      Json.optional_of_gives hoverride rfl fun s j hj => Speaker.ofJson?_of_written hj]
    rfl
  | branch inPins outPins =>
    rcases h with _ | ⟨hin, _ | ⟨hout, _ | _⟩⟩
    simp only [type, ofFields?]
    rw [Json.defaulted_of_plain hin id (Json.index?_int hindex.1),
      Json.defaulted_of_plain hout id (Json.index?_int hindex.2)]
    rfl
  | «variable» position valueType isGlobal =>
    rcases h with _ | ⟨hposition, _ | ⟨htype, _ | ⟨hglobal, _ | _⟩⟩⟩
    simp only [type, ofFields?]
    rw [Json.required_of_plain hposition (Json.index?_int hindex),
      Json.required_of_plain htype valueType.ofJson?_toJson,
      Json.defaulted_of_plain hglobal id (Json.bool?_bool isGlobal)]
    rfl
  | logic valueType comparison a b =>
    rcases h with _ | ⟨htype, _ | ⟨hcomparison, _ | ⟨ha, _ | ⟨hb, _ | _⟩⟩⟩⟩
    simp only [type, ofFields?]
    rw [Json.required_of_plain htype valueType.ofJson?_toJson,
      Json.required_of_plain hcomparison comparison.ofJson?_toJson,
      Json.defaulted_of_gives ha id fun j hj => Slots.ofJson?_of_written hback.1 hj,
      Json.defaulted_of_gives hb id fun j hj => Slots.ofJson?_of_written hback.2 hj]
    rfl
  | edit valueType change b =>
    rcases h with _ | ⟨htype, _ | ⟨hchange, _ | ⟨hb, _ | _⟩⟩⟩
    simp only [type, ofFields?]
    rw [Json.required_of_plain htype valueType.ofJson?_toJson,
      Json.required_of_plain hchange change.ofJson?_toJson,
      Json.defaulted_of_gives hb id fun j hj => Slots.ofJson?_of_written hback hj]
    rfl
  | comment text =>
    rcases h with _ | ⟨htext, _ | _⟩
    simp only [type, ofFields?]
    rw [Json.defaulted_of_plain htext id (Json.text?_text text)]
    rfl
  | newSpeaker speaker =>
    rcases h with _ | ⟨hspeaker, _ | _⟩
    simp only [type, ofFields?]
    rw [Json.required_of_gives hspeaker id fun j hj => Speaker.ofJson?_of_written hj]
    rfl
  | startChange id =>
    rcases h with _ | ⟨hid, _ | _⟩
    simp only [type, ofFields?]
    rw [Json.required_of_plain hid (Json.int32?_int id)]
    rfl
  | teleport isIn id =>
    rcases h with _ | ⟨hisIn, _ | ⟨hid, _ | _⟩⟩
    simp only [type, ofFields?]
    rw [Json.required_of_plain hisIn (Json.bool?_bool isIn),
      Json.required_of_plain hid (Json.int32?_int id)]
    rfl

/-- A content is read from any record that has its fields among others. -/
theorem ofRecord?_of_written (hindex : c.IsIndexed) (hback : c.ReadsBack) {fs : List Field}
    (h : Json.IsRecord fs j) (hnames : (fs.map (·.name)).Nodup) (hsub : c.writtenFields ⊆ fs) :
    ofRecord? c.type j = some c := by
  obtain ⟨os, hfields, hgives⟩ := h.fields? hnames hsub
  have hread := ofFields?_of_gives hindex hback hgives
  rw [names_writtenFields] at hfields
  cases c with
  | finish =>
    obtain ⟨ms, -, rfl⟩ := h
    rfl
  | _ =>
    unfold ofRecord?
    simp only [type] at hfields hread ⊢
    rw [hfields, Option.bind_eq_bind, Option.bind_some, hread]

/-- The fields of a content are flat. -/
theorem isFlat_of_written (hindex : c.IsIndexed) {f : Field} (hf : f ∈ c.writtenFields)
    (hj : f.Written j) : j.IsFlat 1 := by
  have hplain {name : String} {j' : Json} {isDefault : Prop} (hf : f = .plain name j' isDefault)
      (hflat : j'.IsFlat 0) : j.IsFlat 1 := by
    subst hf
    obtain rfl : j = j' := hj
    exact hflat.mono (Nat.zero_le 1)
  cases c with
  | info speaker | newSpeaker speaker =>
    rcases List.mem_singleton.mp hf with rfl
    exact Speaker.isFlat_of_written hj
  | start | startChange => exact hplain (List.mem_singleton.mp hf) (Json.isFlat_int32 _)
  | finish => cases hf
  | dialogue text override =>
    rcases List.mem_pair.mp hf with hf | rfl
    · exact hplain hf (Json.isFlat_text _)
    · cases override with
      | none =>
        obtain rfl : j = .null := hj
        exact Json.isFlat_null.mono (Nat.zero_le 1)
      | some speaker => exact Speaker.isFlat_of_written hj
  | branch =>
    rcases List.mem_pair.mp hf with hf | hf
    · exact hplain hf (Json.isFlat_index hindex.1)
    · exact hplain hf (Json.isFlat_index hindex.2)
  | «variable» =>
    simp only [writtenFields, List.mem_cons, List.not_mem_nil, or_false] at hf
    rcases hf with hf | hf | hf
    · exact hplain hf (Json.isFlat_index hindex)
    · exact hplain hf (Json.isFlat_text _)
    · exact hplain hf (Json.isFlat_bool _)
  | logic =>
    simp only [writtenFields, List.mem_cons, List.not_mem_nil, or_false] at hf
    rcases hf with hf | hf | rfl | rfl
    · exact hplain hf (Json.isFlat_text _)
    · exact hplain hf (Json.isFlat_text _)
    · exact Slots.isFlat_of_written hj
    · exact Slots.isFlat_of_written hj
  | edit =>
    simp only [writtenFields, List.mem_cons, List.not_mem_nil, or_false] at hf
    rcases hf with hf | hf | rfl
    · exact hplain hf (Json.isFlat_text _)
    · exact hplain hf (Json.isFlat_text _)
    · exact Slots.isFlat_of_written hj
  | comment => exact hplain (List.mem_singleton.mp hf) (Json.isFlat_text _)
  | teleport =>
    rcases List.mem_pair.mp hf with hf | hf
    · exact hplain hf (Json.isFlat_bool _)
    · exact hplain hf (Json.isFlat_int32 _)

end Content

/-! ## Links and nodes -/

namespace Link

/-- Whether the indices of a link are of 64 bits. -/
def IsIndexed (l : Link) : Prop := l.node < indexLimit ∧ l.slot < indexLimit

theorem ofJson?_toJson {l : Link} (h : l.IsIndexed) : ofJson? l.toJson = some l := by
  have hfields : l.toJson.fields? ["node", "slot"] =
      some [some (.int l.node), some (.int l.slot)] :=
    Json.fields?_record [("node", .int l.node), ("slot", .int l.slot)]
      (by decide : ["node", "slot"].Nodup)
  rw [ofJson?, hfields, Option.bind_eq_bind, Option.bind_some]
  dsimp only
  rw [Json.required_some, Json.required_some, Json.index?_int h.1, Json.index?_int h.2]
  rfl

end Link

namespace Node

variable {n : Node} {j : Json}

/-- The fields of a node as they may be written. -/
def writtenFields (n : Node) : List Field :=
  [.plain "index" (.int n.index) False, .plain "kind" n.type.toJson False] ++
    n.content.writtenFields ++
    [.plain "inputs" (.ofList Link.toJson n.inputs) (n.inputs = []),
      .plain "outputs" (.ofList Link.toJson n.outputs) (n.outputs = [])]

/-- Whether a value may be written for a node. -/
def Written (n : Node) : Json → Prop := Json.IsRecord n.writtenFields

/-- Whether all indices in a node are of 64 bits. -/
structure IsIndexed (n : Node) : Prop where
  index : n.index < indexLimit
  content : n.content.IsIndexed
  inputs : ∀ l ∈ n.inputs, l.IsIndexed
  outputs : ∀ l ∈ n.outputs, l.IsIndexed

theorem written_toJson (n : Node) : n.Written n.toJson := by
  have hfront : Json.Members [.plain "index" (.int n.index) False,
      .plain "kind" n.type.toJson False] [("index", .int n.index), ("kind", n.type.toJson)] :=
    .write rfl (.write rfl .nil)
  have hback : Json.Members [.plain "inputs" (.ofList Link.toJson n.inputs) (n.inputs = []),
      .plain "outputs" (.ofList Link.toJson n.outputs) (n.outputs = [])]
      [("inputs", .ofList Link.toJson n.inputs), ("outputs", .ofList Link.toJson n.outputs)] :=
    .write rfl (.write rfl .nil)
  exact ⟨_, (hfront.append n.content.members_fields).append hback, rfl⟩

theorem nodup_names (n : Node) : (n.writtenFields.map (·.name)).Nodup := by
  have hkinds : ∀ t : NodeType,
      (["index", "kind"] ++ Content.fieldNames t ++ ["inputs", "outputs"]).Nodup := by
    intro t
    cases t <;> decide
  have hnames : n.writtenFields.map (·.name) =
      ["index", "kind"] ++ Content.fieldNames n.content.type ++ ["inputs", "outputs"] := by
    simp only [writtenFields, List.map_append, Content.names_writtenFields]
    rfl
  rw [hnames]
  exact hkinds _

/-- What is not the node's own can be kept until its kind is known. -/
theorem canKeep_of_written (hindex : n.IsIndexed) {enclosing : Nat}
    (hnesting : enclosing + 1 ≤ Json.depthLimit) {f : Field} (hf : f ∈ n.writtenFields)
    (hj : f.Written j) :
    (ownFields.contains (some f.name) || j.canKeep enclosing) = true := by
  have hown {name : String} {j' : Json} {isDefault : Prop} (hf : f = .plain name j' isDefault)
      (hname : ownFields.contains (some name) = true) :
      (ownFields.contains (some f.name) || j.canKeep enclosing) = true := by
    subst hf
    exact Bool.or_eq_true_iff.mpr (.inl hname)
  have hkept (hflat : j.IsFlat 1) :
      (ownFields.contains (some f.name) || j.canKeep enclosing) = true :=
    Bool.or_eq_true_iff.mpr (.inr (hflat.canKeep hnesting))
  simp only [writtenFields, List.mem_append, List.mem_cons, List.not_mem_nil, or_false] at hf
  rcases hf with ((hf | rfl) | hf) | hf | hf
  · exact hown hf rfl
  · obtain rfl : j = .text n.type.key := hj
    exact hkept ((Json.isFlat_text _).mono (Nat.zero_le 1))
  · exact hkept (Content.isFlat_of_written hindex.content hf hj)
  · exact hown hf rfl
  · exact hown hf rfl

/-- A node is read as what it was, with whatever members left out that hold their default. -/
theorem ofJson?_of_written {enclosing : Nat} (hnesting : enclosing + 2 ≤ Json.depthLimit)
    (hindex : n.IsIndexed) (hback : n.content.ReadsBack) (h : n.Written j) :
    ofJson? enclosing j = some n := by
  have hcontent := Content.ofRecord?_of_written hindex.content hback h n.nodup_names fun f hf => by
    simp [writtenFields, hf]
  obtain ⟨ms, hms, rfl⟩ := h
  rw [Json.record] at hcontent ⊢
  generalize hmembers : (ms.map fun m => ((some m.1 : Literal), m.2)) = members at hcontent ⊢
  have hgiven (f : Field) (hf : f ∈ n.writtenFields) :
      ∃ o, Json.member? f.name members = some o ∧ f.Gives o :=
    hmembers ▸ hms.member? n.nodup_names hf
  -- The members that are the node's own are read one by one.
  obtain ⟨index, hindexAt : Json.member? "index" members = _, hgives⟩ :=
    hgiven (.plain "index" (.int n.index) False) (by simp [writtenFields])
  have hindexRead := Json.required_of_plain hgives (Json.index?_int hindex.index)
  obtain ⟨kind, hkindAt : Json.member? "kind" members = _, hgives⟩ :=
    hgiven (.plain "kind" n.type.toJson False) (by simp [writtenFields])
  have hkindRead := Json.required_of_plain hgives n.type.ofField?_toJson
  obtain ⟨inputs, hinputsAt : Json.member? "inputs" members = _, hgives⟩ :=
    hgiven (.plain "inputs" (.ofList Link.toJson n.inputs) (n.inputs = []))
      (by simp [writtenFields])
  have hinputsRead := Json.defaulted_of_plain hgives id
    (Json.list?_ofList fun l hl => Link.ofJson?_toJson (hindex.inputs l hl))
  obtain ⟨outputs, houtputsAt : Json.member? "outputs" members = _, hgives⟩ :=
    hgiven (.plain "outputs" (.ofList Link.toJson n.outputs) (n.outputs = []))
      (by simp [writtenFields])
  have houtputsRead := Json.defaulted_of_plain hgives id
    (Json.list?_ofList fun l hl => Link.ofJson?_toJson (hindex.outputs l hl))
  -- The others are kept.
  have hkept : members.all (fun m =>
      ownFields.contains m.1 || m.1.isSome && m.2.canKeep (enclosing + 1)) = true := by
    rw [← hmembers, List.all_map, List.all_eq_true]
    intro m hm
    obtain ⟨f, hf, hname, hj⟩ := hms.exists_field hm
    have hkept := canKeep_of_written hindex hnesting hf hj
    simpa [hname] using hkept
  unfold ofJson?
  dsimp only
  have hguard : (guard (true = true) : Option Unit) = some () := if_pos rfl
  rw [hkept, hguard, hindexAt, hkindAt, hinputsAt, houtputsAt]
  simp only [Option.bind_eq_bind, Option.bind_some]
  rw [hindexRead, hkindRead, hinputsRead, houtputsRead, Option.bind_some, Option.bind_some, type,
    hcontent]
  rfl

end Node

end DialogueTree
