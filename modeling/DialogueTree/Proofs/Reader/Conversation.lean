import DialogueTree.Reader.Snapshot
import DialogueTree.Reader.Stop

/-!
# Conversations

A reader that rests in a tree sees nothing of its library but one tree and the variables that all
trees share. What it sees is a `Conversation`: the document, the cursor and the scene that the next
walk starts with. All that a host can ask of the reader as long as it stays in the tree is a
function of the conversation.

Results:
* `advance_conversation`, `choose_conversation`, `jump_conversation`, ...: what a session does, its
  conversation does.
* `resume_conversation`: a reader that a tree takes in goes on with the conversation of the
  snapshot.
-/

namespace DialogueTree

/-! ## Libraries -/

namespace Library

/-- The documents of the trees, which no reader changes. -/
def documents (l : Library) : List Document := l.trees.map (·.document)

theorem tree?_modifyTree (l : Library) (i j : Nat) (f : Tree → Tree) :
    (l.modifyTree i f).tree? j = if i = j then (l.tree? j).map f else l.tree? j := by
  simp only [modifyTree, tree?, List.getElem?_modify]
  split <;> simp

@[simp] theorem tree?_modifyTree_self (l : Library) (i : Nat) (f : Tree → Tree) :
    (l.modifyTree i f).tree? i = (l.tree? i).map f := by
  simp [tree?_modifyTree]

@[simp] theorem globals_modifyTree (l : Library) (i : Nat) (f : Tree → Tree) :
    (l.modifyTree i f).globals = l.globals := rfl

@[simp] theorem documents_withGlobals (l : Library) (store : Store) :
    documents { l with globals := store } = l.documents := rfl

theorem documents_modifyTree (l : Library) (i : Nat) {f : Tree → Tree}
    (hf : ∀ t, (f t).document = t.document) : (l.modifyTree i f).documents = l.documents := by
  apply List.ext_getElem?
  intro j
  simp only [documents, modifyTree, List.getElem?_map, List.getElem?_modify]
  split
  · cases l.trees[j]? <;> simp [hf]
  · simp

theorem documents_getElem? (l : Library) (i : Nat) :
    l.documents[i]? = (l.tree? i).map (·.document) := by
  simp [documents, tree?]

end Library

/-! ## What a reader sees -/

/-- What a reader that rests in a tree sees of its library. -/
structure Conversation where
  document : Document
  cursor : Nat
  scene : Scene
  deriving DecidableEq

namespace Conversation

/-- Walks on from a node, or does nothing where there is none to walk on from. -/
def follow (c : Conversation) : Except ReaderError Nat → Except ReaderError NodeType × Conversation
  | .error e => (.error e, c)
  | .ok first =>
    match c.document.settle c.cursor c.scene first with
    | (.ok r, after) => (.ok r.type, ⟨c.document, r.cursor, after⟩)
    | (.error e, after) => (.error e, ⟨c.document, c.cursor, after⟩)

/-- Follows the only exit of the node at the cursor. -/
def advance (c : Conversation) : Except ReaderError NodeType × Conversation :=
  c.follow (c.document.onward c.cursor)

/-- Follows the exit of an answer. -/
def choose (c : Conversation) (choice : Nat) : Except ReaderError NodeType × Conversation :=
  c.follow (c.document.answered c.cursor choice)

/-- Puts the cursor on another node. -/
def jump (c : Conversation) (i : Nat) : Except ReaderError NodeType × Conversation :=
  match c.document.resting i with
  | .ok type => (.ok type, { c with cursor := i })
  | .error e => (.error e, c)

/-- What templates stand for. -/
def setting (c : Conversation) : Template.Setting :=
  ⟨c.scene.locals, c.scene.globals, c.scene.speaker.name⟩

/-- A text with its templates expanded. -/
def expand (c : Conversation) (text : String) : String := Template.expand c.setting text

/-- What is shown at the cursor. -/
def output (c : Conversation) : Except ReaderError Output :=
  c.document.output c.expand c.cursor

/-- Gives the tree another speaker. -/
def changeSpeaker (c : Conversation) (speaker : Speaker) : Conversation :=
  { c with scene := { c.scene with speaker := speaker } }

/-- Takes note of the speaker. -/
def noteSpeaker (c : Conversation) : Conversation :=
  { c with scene := { c.scene with changed := false } }

/-- Tries an operation on the local variables. -/
def tryLocals (c : Conversation) (f : Store → Option Store) : Bool × Conversation :=
  match f c.scene.locals with
  | some store => (true, { c with scene := { c.scene with locals := store } })
  | none => (false, c)

/-- The stop at the cursor. -/
def stop (c : Conversation) (announce : Bool) : Except ReaderError Stop × Conversation :=
  let speaker := if c.scene.changed || announce then some (c.expand c.scene.speaker.name) else none
  (c.output.map fun output => ⟨speaker, output⟩, c.noteSpeaker)

/-- The state of the conversation as a snapshot. -/
def snapshot (c : Conversation) : Snapshot :=
  { schema := snapshotSchema
    tree := c.document.name
    cursor := c.cursor
    defaultStart := c.scene.defaultStart
    speaker := c.scene.speaker
    pending := c.scene.pending
    speakerChanged := c.scene.changed
    locals := c.scene.locals
    globals := c.scene.globals }

/-- The conversation that a snapshot describes. -/
def ofSnapshot (d : Document) (snap : Snapshot) : Conversation :=
  { document := d
    cursor := snap.cursor
    scene :=
      { locals := snap.locals
        globals := snap.globals
        defaultStart := snap.defaultStart
        speaker := snap.speaker
        pending := snap.pending
        changed := snap.speakerChanged } }

@[simp] theorem ofSnapshot_snapshot (c : Conversation) :
    ofSnapshot c.document c.snapshot = c := rfl

end Conversation

namespace Session

variable {s : Session} {c : Conversation} {p : Place} {t : Tree}

/-- The conversation of a reader that is not idle. -/
def conversation? (s : Session) : Option Conversation :=
  s.loaded?.map fun (p, t) => ⟨t.document, p.cursor, s.scene p t⟩

theorem loaded?_eq_some :
    s.loaded? = some (p, t) ↔ s.reader.place = some p ∧ s.library.tree? p.tree = some t := by
  unfold loaded?
  cases hp : s.reader.place with
  | none => simp
  | some q =>
    cases ht : s.library.tree? q.tree with
    | none =>
      constructor
      · intro h
        simp [ht] at h
      · rintro ⟨⟨⟩, h⟩
        rw [ht] at h
        cases h
    | some u =>
      constructor
      · intro h
        obtain ⟨rfl, rfl⟩ : q = p ∧ u = t := by simpa [ht] using h
        exact ⟨rfl, ht⟩
      · rintro ⟨⟨⟩, h⟩
        rw [ht] at h
        cases h
        simp [ht]

theorem conversation?_eq_some :
    s.conversation? = some c ↔
      ∃ p t, s.loaded? = some (p, t) ∧ c = ⟨t.document, p.cursor, s.scene p t⟩ := by
  simp only [conversation?, Option.map_eq_some_iff, Prod.exists]
  constructor <;> rintro ⟨p, t, hl, rfl⟩ <;> exact ⟨p, t, hl, rfl⟩

theorem conversation?_of_loaded? (h : s.loaded? = some (p, t)) :
    s.conversation? = some ⟨t.document, p.cursor, s.scene p t⟩ := by
  simp [conversation?, h]

theorem conversation?_withScene {i : Nat} (h : s.library.tree? i = some t) (cursor : Nat)
    (after : Scene) :
    (s.withScene i cursor after).conversation? = some ⟨t.document, cursor, after⟩ := by
  have htree : (s.withScene i cursor after).library.tree? i = some { t with
      locals := after.locals, defaultStart := after.defaultStart, speaker := after.speaker } := by
    have := s.library.tree?_modifyTree_self i fun t => { t with
      locals := after.locals, defaultStart := after.defaultStart, speaker := after.speaker }
    rw [h] at this
    exact this
  exact conversation?_of_loaded? (p := ⟨i, cursor, after.pending⟩)
    (loaded?_eq_some.mpr ⟨rfl, htree⟩)

theorem tree?_withScene_of_ne (s : Session) {i j : Nat} (hne : i ≠ j) (cursor : Nat)
    (after : Scene) : (s.withScene i cursor after).library.tree? j = s.library.tree? j := by
  have := s.library.tree?_modifyTree i j fun t => { t with
    locals := after.locals, defaultStart := after.defaultStart, speaker := after.speaker }
  rw [if_neg hne] at this
  exact this

/-! ## What a session does, its conversation does -/

/-- Walking in a session is walking in its conversation. -/
theorem settle_conversation (h : s.loaded? = some (p, t)) (first : Nat) :
    let c : Conversation := ⟨t.document, p.cursor, s.scene p t⟩
    (s.settle p t first).1 = (c.follow (.ok first)).1 ∧
      (s.settle p t first).2.conversation? = some (c.follow (.ok first)).2 := by
  have htree := (loaded?_eq_some.mp h).2
  unfold settle Conversation.follow
  dsimp only
  rcases t.document.settle p.cursor (s.scene p t) first with ⟨⟨e⟩ | ⟨r⟩, after⟩
  · exact ⟨rfl, conversation?_withScene htree p.cursor after⟩
  · exact ⟨rfl, conversation?_withScene htree r.cursor after⟩

theorem advance_conversation (h : s.conversation? = some c) :
    s.advance.1 = c.advance.1 ∧ s.advance.2.conversation? = some c.advance.2 := by
  obtain ⟨p, t, hl, rfl⟩ := conversation?_eq_some.mp h
  unfold advance Conversation.advance
  simp only [hl]
  cases hfirst : t.document.onward p.cursor with
  | error e => exact ⟨rfl, h⟩
  | ok first => exact settle_conversation hl first

theorem choose_conversation (h : s.conversation? = some c) (choice : Nat) :
    (s.choose choice).1 = (c.choose choice).1 ∧
      (s.choose choice).2.conversation? = some (c.choose choice).2 := by
  obtain ⟨p, t, hl, rfl⟩ := conversation?_eq_some.mp h
  unfold choose Conversation.choose
  simp only [hl]
  cases hfirst : t.document.answered p.cursor choice with
  | error e => exact ⟨rfl, h⟩
  | ok first => exact settle_conversation hl first

theorem jump_conversation (h : s.conversation? = some c) (i : Nat) :
    (s.jump i).1 = (c.jump i).1 ∧ (s.jump i).2.conversation? = some (c.jump i).2 := by
  obtain ⟨p, t, hl, rfl⟩ := conversation?_eq_some.mp h
  unfold jump Conversation.jump
  simp only [hl]
  cases hrest : t.document.resting i with
  | error e => exact ⟨rfl, h⟩
  | ok type =>
    have htree := (loaded?_eq_some.mp hl).2
    exact ⟨rfl, conversation?_of_loaded? (p := { p with cursor := i })
      (loaded?_eq_some.mpr ⟨rfl, htree⟩)⟩

theorem output_conversation (h : s.conversation? = some c) : s.output = c.output := by
  obtain ⟨p, t, hl, rfl⟩ := conversation?_eq_some.mp h
  simp only [output, hl]
  rfl

theorem tree?_of_loaded? (h : s.loaded? = some (p, t)) : s.tree? = some t := by
  simp [tree?, h]

theorem expand_conversation (h : s.conversation? = some c) (text : String) :
    s.expand text = .ok (c.expand text) := by
  obtain ⟨p, t, hl, rfl⟩ := conversation?_eq_some.mp h
  simp only [expand, tree?_of_loaded? hl]
  rfl

theorem speakerName?_conversation (h : s.conversation? = some c) :
    s.speakerName? = some (c.expand c.scene.speaker.name) := by
  obtain ⟨p, t, hl, rfl⟩ := conversation?_eq_some.mp h
  simp only [speakerName?, tree?_of_loaded? hl]
  rfl

theorem takeSpeakerChanged_conversation (h : s.conversation? = some c) :
    s.takeSpeakerChanged.1 = c.scene.changed ∧
      s.takeSpeakerChanged.2.conversation? = some c.noteSpeaker := by
  obtain ⟨p, t, hl, rfl⟩ := conversation?_eq_some.mp h
  exact ⟨rfl, conversation?_of_loaded? (loaded?_eq_some.mpr (loaded?_eq_some.mp hl))⟩

theorem locals_conversation (h : s.conversation? = some c) : s.locals = c.scene.locals := by
  obtain ⟨p, t, hl, rfl⟩ := conversation?_eq_some.mp h
  simp [locals, tree?_of_loaded? hl, scene]

/-- What is changed about the tree of a reader, is changed about its conversation. -/
theorem modifyTree_conversation (h : s.loaded? = some (p, t)) {f : Tree → Tree}
    (hf : (f t).document = t.document) :
    (s.modifyTree f).conversation? = some ⟨t.document, p.cursor, s.scene p (f t)⟩ := by
  obtain ⟨hplace, htree⟩ := loaded?_eq_some.mp h
  have hl : (s.modifyTree f).loaded? = some (p, f t) := by
    refine loaded?_eq_some.mpr ⟨?_, ?_⟩
    · simpa [modifyTree, h] using hplace
    · simp [modifyTree, h, htree]
  rw [conversation?_of_loaded? hl, hf]
  simp [modifyTree, h, scene]

theorem changeSpeaker_conversation (h : s.conversation? = some c) (speaker : Speaker) :
    (s.changeSpeaker speaker).1 = .ok () ∧
      (s.changeSpeaker speaker).2.conversation? = some (c.changeSpeaker speaker) := by
  obtain ⟨p, t, hl, rfl⟩ := conversation?_eq_some.mp h
  unfold changeSpeaker
  rw [hl]
  exact ⟨rfl, modifyTree_conversation hl rfl⟩

theorem tryLocals_conversation (h : s.conversation? = some c) (f : Store → Option Store) :
    (s.tryLocals f).1 = (c.tryLocals f).1 ∧
      (s.tryLocals f).2.conversation? = some (c.tryLocals f).2 := by
  obtain ⟨p, t, hl, rfl⟩ := conversation?_eq_some.mp h
  unfold tryLocals Conversation.tryLocals
  simp only [tree?_of_loaded? hl, Option.bind_some]
  have hscene : (s.scene p t).locals = t.locals := rfl
  rw [hscene]
  cases f t.locals with
  | none => exact ⟨rfl, h⟩
  | some store => exact ⟨rfl, modifyTree_conversation hl rfl⟩

theorem stop_conversation (h : s.conversation? = some c) (announce : Bool) :
    (s.stop announce).1 = (c.stop announce).1 ∧
      (s.stop announce).2.conversation? = some (c.stop announce).2 := by
  obtain ⟨hflag, hnoted⟩ := takeSpeakerChanged_conversation h
  refine ⟨?_, hnoted⟩
  -- Neither the output nor the name of the speaker depends on the flag.
  have hout := output_conversation hnoted
  have hname := speakerName?_conversation hnoted
  unfold stop
  simp only [hflag, hout, hname]
  rfl

theorem snapshot_conversation (h : s.conversation? = some c) : s.snapshot = .ok c.snapshot := by
  obtain ⟨p, t, hl, rfl⟩ := conversation?_eq_some.mp h
  simp only [snapshot, hl]
  rfl

/-! ## Entering and leaving -/

theorem tree?_unload (s : Session) (i : Nat) {t : Tree} (h : s.library.tree? i = some t) :
    ∃ u, s.unload.library.tree? i = some u ∧ u.document = t.document := by
  unfold unload
  simp only
  split
  · rw [Library.tree?_modifyTree]
    split <;> simp [h]
  · exact ⟨t, h, rfl⟩

/-- A reader that a tree takes in the state of a snapshot goes on with the conversation that the
snapshot describes. -/
theorem resume_conversation {i : Nat} {snap : Snapshot} (ht : s.library.tree? i = some t)
    (h : refusal? t snap = none) :
    (s.resume i snap).1 = .ok () ∧
      (s.resume i snap).2.conversation? = some (.ofSnapshot t.document snap) := by
  obtain ⟨u, hu, hdoc⟩ := s.tree?_unload i ht
  unfold resume
  rw [ht]
  dsimp only
  rw [h]
  refine ⟨rfl, ?_⟩
  dsimp only
  rw [conversation?_withScene hu, hdoc]
  rfl

end Session

end DialogueTree
