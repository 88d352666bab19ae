import DialogueTree.Proofs.Format.Node
import DialogueTree.Proofs.Json.RoundTrip
import DialogueTree.Scenario.Case

/-!
# Test cases read back

The text of a case gives the case again if its answers are of 64 bits, also with members left out
that hold their default: the tree, the way in, the answers, the events and the speaker of an event.

Results:
* `Json.tagged?_of_record`: the kind of a record that names its kind.
* `Event.ofJson?_of_written`: events.
* `TestCase.parse?_of_written`: the texts of a case.
-/

namespace DialogueTree

open Json (Field)

/-- A record that names its kind and whose other values are flat. -/
theorem Json.tagged?_of_record {fs : List Field} {j : Json} {kind : String} {k enclosing : Nat}
    (h : Json.IsRecord fs j) (hnames : (fs.map (·.name)).Nodup)
    (hkind : .plain "kind" (.text kind) False ∈ fs)
    (hflat : ∀ f ∈ fs, ∀ j, f.Written j → j.IsFlat k) (hle : enclosing + 1 + k ≤ depthLimit) :
    j.tagged? enclosing = some (kind, j) := by
  obtain ⟨ms, hms, rfl⟩ := h
  obtain ⟨o, ho, hgives⟩ := hms.member? hnames hkind
  have ho : member? "kind" (ms.map fun m => (some m.1, m.2)) = some o := ho
  have hkept : (ms.map fun m => ((some m.1 : Literal), m.2)).all (fun m =>
      m.1 == some "kind" || m.1.isSome && m.2.canKeep (enclosing + 1)) = true := by
    rw [List.all_map, List.all_eq_true]
    intro m hm
    obtain ⟨f, hf, -, hj⟩ := hms.exists_field hm
    have hkept := (hflat f hf m.2 hj).canKeep hle
    simp [hkept]
  have hguard : (guard (true = true) : Option Unit) = some () := if_pos rfl
  rw [record, tagged?, ho, Option.bind_eq_bind, Option.bind_some,
    required_of_plain hgives (text?_text kind), Option.bind_eq_bind, Option.bind_some, hkept,
    hguard]
  rfl

/-! ## Events -/

namespace Event

variable {e : Event} {j : Json}

/-- The field of a speaker as it may be written. -/
def writtenSpeaker (speaker : Option String) : Field :=
  ⟨"speaker", Json.IsOption (fun name j => j = .text name) speaker, speaker = none⟩

/-- The fields of an event as they may be written. -/
def writtenFields : Event → List Field
  | .dialogue speaker text =>
    [.plain "kind" (.text "dialogue") False, writtenSpeaker speaker,
      .plain "text" (.text text) False]
  | .branch speaker question answers =>
    [.plain "kind" (.text "branch") False, writtenSpeaker speaker,
      .plain "question" (.text question) False, .plain "answers" (.ofList .text answers) False]
  | .finish => [.plain "kind" (.text "end") False]

/-- Whether a value may be written for an event. -/
def Written (e : Event) : Json → Prop := Json.IsRecord e.writtenFields

theorem written_toJson (e : Event) : e.Written e.toJson := by
  cases e with
  | dialogue speaker text =>
    cases speaker with
    | none => exact ⟨_, .write rfl (.leaveOut rfl (.write rfl .nil)), rfl⟩
    | some name => exact ⟨_, .write rfl (.write rfl (.write rfl .nil)), rfl⟩
  | branch speaker question answers =>
    cases speaker with
    | none => exact ⟨_, .write rfl (.leaveOut rfl (.write rfl (.write rfl .nil))), rfl⟩
    | some name => exact ⟨_, .write rfl (.write rfl (.write rfl (.write rfl .nil))), rfl⟩
  | finish => exact ⟨_, .write rfl .nil, rfl⟩

theorem isFlat_of_writtenField {f : Field} (hf : f ∈ e.writtenFields) (hj : f.Written j) :
    j.IsFlat 1 := by
  have htext {name text : String} (hf : f = .plain name (.text text) False) : j.IsFlat 1 := by
    subst hf
    obtain rfl : j = .text text := hj
    exact (Json.isFlat_text text).mono (Nat.zero_le 1)
  have hspeaker {speaker : Option String} (hf : f = writtenSpeaker speaker) : j.IsFlat 1 := by
    subst hf
    exact (Json.isFlat_of_optionText hj).mono (Nat.zero_le 1)
  cases e with
  | dialogue speaker text =>
    simp only [writtenFields, List.mem_cons, List.not_mem_nil, or_false] at hf
    rcases hf with hf | hf | hf
    · exact htext hf
    · exact hspeaker hf
    · exact htext hf
  | branch speaker question answers =>
    simp only [writtenFields, List.mem_cons, List.not_mem_nil, or_false] at hf
    rcases hf with hf | hf | hf | rfl
    · exact htext hf
    · exact hspeaker hf
    · exact htext hf
    · obtain rfl : j = .ofList .text answers := hj
      exact Json.isFlat_ofList Json.isFlat_text answers
  | finish => exact htext (List.mem_singleton.mp hf)

theorem speaker_of_gives {speaker : Option String} {o : Option Json}
    (h : (writtenSpeaker speaker).Gives o) : Json.optional Json.text? o = some speaker :=
  Json.optional_of_gives h rfl fun name _ hj => hj ▸ Json.text?_text name

/-- An event is read as what it was, whether a missing speaker is left out or not. -/
theorem ofJson?_of_written {enclosing : Nat} (hle : enclosing + 2 ≤ Json.depthLimit)
    (h : e.Written j) : ofJson? enclosing j = some e := by
  have htag {kind : String} (hnames : (e.writtenFields.map (·.name)).Nodup)
      (hkind : .plain "kind" (.text kind) False ∈ e.writtenFields) :
      j.tagged? enclosing = some (kind, j) :=
    Json.tagged?_of_record h hnames hkind (fun _ hf _ hj => isFlat_of_writtenField hf hj) hle
  cases e with
  | dialogue speaker text =>
    have hnames : ["kind", "speaker", "text"].Nodup := by decide
    obtain ⟨os, hfields, hgives⟩ := h.fields? hnames (List.subset_cons_self ..)
    rcases hgives with _ | ⟨hspeaker, _ | ⟨htext, _ | _⟩⟩
    have hfields : j.fields? ["speaker", "text"] = some _ := hfields
    rw [ofJson?, htag hnames List.mem_cons_self, Option.bind_eq_bind, Option.bind_some]
    dsimp only
    rw [hfields, Option.bind_eq_bind, Option.bind_some]
    dsimp only
    rw [speaker_of_gives hspeaker, Json.required_of_plain htext (Json.text?_text text)]
    rfl
  | branch speaker question answers =>
    have hnames : ["kind", "speaker", "question", "answers"].Nodup := by decide
    obtain ⟨os, hfields, hgives⟩ := h.fields? hnames (List.subset_cons_self ..)
    rcases hgives with _ | ⟨hspeaker, _ | ⟨hquestion, _ | ⟨hanswers, _ | _⟩⟩⟩
    have hfields : j.fields? ["speaker", "question", "answers"] = some _ := hfields
    rw [ofJson?, htag hnames List.mem_cons_self, Option.bind_eq_bind, Option.bind_some]
    dsimp only
    rw [hfields, Option.bind_eq_bind, Option.bind_some]
    dsimp only
    rw [speaker_of_gives hspeaker, Json.required_of_plain hquestion (Json.text?_text question),
      Json.required_of_plain hanswers (Json.list?_ofList fun a _ => Json.text?_text a)]
    rfl
  | finish =>
    have hnames : ["kind"].Nodup := by decide
    rw [ofJson?, htag hnames List.mem_cons_self, Option.bind_eq_bind, Option.bind_some]
    dsimp only
    obtain ⟨ms, -, rfl⟩ := h
    rfl

end Event

/-! ## Cases -/

namespace TestCase

variable {c : TestCase} {j : Json}

/-- The fields of a case as they may be written. -/
def writtenFields (c : TestCase) : List Field :=
  [.plain "schemaVersion" (.text c.schema) False,
    ⟨"tree", Json.IsOption (fun name j => j = .text name) c.tree, c.tree = none⟩,
    ⟨"startId", Json.IsOption (fun id j => j = .int id.toInt) c.start, c.start = none⟩,
    .plain "choices" (.ofList (fun (n : Nat) => .int n) c.choices) (c.choices = []),
    ⟨"expectedEvents", Json.IsList Event.Written c.expected, c.expected = []⟩]

/-- Whether a value may be written for a case. -/
def Written (c : TestCase) : Json → Prop := Json.IsRecord c.writtenFields

theorem written_toJson (c : TestCase) : c.Written c.toJson := by
  refine ⟨_, .write rfl (.write ?tree (.write ?start (.write rfl
    (.write (Json.isList_ofList fun e _ => e.written_toJson) .nil)))), rfl⟩
  case tree => cases c.tree <;> rfl
  case start => cases c.start <;> rfl

/-- A case is read as what it was, with whatever members left out that hold their default. -/
theorem ofJson?_of_written (hindex : ∀ choice ∈ c.choices, choice < indexLimit)
    (h : c.Written j) : ofJson? j = some c := by
  obtain ⟨os, hfields, hgives⟩ := h.fields?
    (by decide : ["schemaVersion", "tree", "startId", "choices", "expectedEvents"].Nodup)
    (List.Subset.refl _)
  rcases hgives with
    _ | ⟨hschema, _ | ⟨htree, _ | ⟨hstart, _ | ⟨hchoices, _ | ⟨hexpected, _ | _⟩⟩⟩⟩⟩
  have hfields : j.fields? ["schemaVersion", "tree", "startId", "choices", "expectedEvents"] =
    some _ := hfields
  have hexpectedRead := Json.defaulted_of_gives hexpected id fun j hj =>
    hj.list?_eq fun e _ _ hj =>
      Event.ofJson?_of_written (by decide : eventNesting + 2 ≤ Json.depthLimit) hj
  rw [ofJson?, hfields, Option.bind_eq_bind, Option.bind_some]
  dsimp only
  rw [Json.required_of_plain hschema (Json.text?_text _),
    Json.optional_of_gives htree rfl fun name _ hj => hj ▸ Json.text?_text name,
    Json.optional_of_gives hstart rfl fun id _ hj => hj ▸ Json.int32?_int id,
    Json.defaulted_of_plain hchoices id
      (Json.list?_ofList fun n hn => Json.index?_int (hindex n hn)), hexpectedRead]
  rfl

/-- The texts of a case give the case. -/
theorem parse?_of_written (hindex : ∀ choice ∈ c.choices, choice < indexLimit)
    (h : c.Written j) {sp : Json.Spacing} (hsp : sp.IsBlank) :
    parse? (String.ofList (j.chars sp 0)) = some c := by
  rw [parse?, Json.parse?, String.toList_ofList, Json.parseChars?_chars hsp, Option.bind_eq_bind,
    Option.bind_some, ofJson?_of_written hindex h]

end TestCase

end DialogueTree
