import DialogueTree.Format.Conversation
import DialogueTree.Json.Parser
import DialogueTree.Player.Catalogue

/-!
# Saved states

The file in which a conversation is kept between commands: a snapshot, and the id of the library
it belongs to.

* `Save.toJson`, `Save.ofJson?`: a saved state.
* `Save.write`, `Save.read`: a saved state in a file.
-/

namespace DialogueTree

/-- The form of saved states that this library writes and reads (`PLAYER_STATE_SCHEMA`). -/
def saveSchema : String := "player-state.v1"

/-- A conversation as it is kept in a file (`PlayerState`). -/
structure Save where
  schema : String := saveSchema
  libraryId : String
  snapshot : Snapshot
  deriving DecidableEq

namespace Save

/-- The JSON of a saved state. -/
def toJson (s : Save) : Json :=
  .record [("schemaVersion", .text s.schema), ("libraryId", .text s.libraryId),
    ("snapshot", s.snapshot.toJson)]

/-- The saved state that a JSON value gives. -/
def ofJson? (j : Json) : Option Save := do
  match ← j.fields? ["schemaVersion", "libraryId", "snapshot"] with
  | [schema, libraryId, snapshot] =>
    return ⟨← Json.required Json.text? schema, ← Json.required Json.text? libraryId,
      ← Json.required Snapshot.ofJson? snapshot⟩
  | _ => none

/-- The saved state that a text gives. -/
def parse? (text : String) : Option Save := do ofJson? (← Json.parse? text)

/-- A saved state as text. -/
def text (s : Save) : String := s.toJson.pretty

/-- The state of a conversation (`save_reader_state`). -/
def ofSession (libraryId : String) (s : Session) : Except PlayerError Save := do
  return { libraryId := libraryId, snapshot := ← s.snapshot.mapError .ofReader }

variable {m : Type → Type} [Monad m] [Disk m]

/-- Writes a saved state to a file, in a directory that is made if it is not there
(`save_player_state`). -/
def write (s : Save) (p : Path) : ExceptT PlayerError m Unit := do
  if ← Disk.makeParent p then
    if ← Disk.write p s.text then return ()
  throw (.saveUnwritable p)

/-- The saved state in a file (`load_player_state`). -/
def read (p : Path) : ExceptT PlayerError m Save := do
  if !(← Disk.isThere p) then throw (.saveNotFound p)
  match ← Disk.readText? p with
  | none => throw (.saveUnreadable p)
  | some text =>
    match parse? text with
    | none => throw (.saveInvalid p)
    | some s => if s.schema = saveSchema then return s else throw (.saveSchema s.schema)

end Save

end DialogueTree
