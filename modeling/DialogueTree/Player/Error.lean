import DialogueTree.Disk.Path
import DialogueTree.Json.Printer
import DialogueTree.Reader.Opening

/-!
# Errors of the player

What can go wrong when a player is run, and how it is told.

* `PlayerError.report`: code and message.
* `PlayerError.lines`: the lines in which a command tells of it.

Where the message of an error is that of the file system or of the JSON reader, only what kind of
error it is is modelled, in a wording of its own. What is logged besides is left out.
-/

namespace DialogueTree

/-- Why a command fails. -/
inductive PlayerError where
  | opening (e : OpeningError)
  | referenceInvalid (ref : String)
  | directoryNotFound (path : Path)
  | notDirectory (path : Path)
  | noTrees (path : Path)
  | globalsNotFound (path : Path)
  | sourceUnreadable (path : Path)
  | saveNotFound (path : Path)
  | saveUnreadable (path : Path)
  | saveInvalid (path : Path)
  | saveSchema (found : String)
  | saveUnwritable (path : Path)
  | saveOfOtherLibrary (expected actual : String)
  | inputUnreadable
  deriving DecidableEq

namespace PlayerError

/-- An error of the reader. -/
def ofReader (e : ReaderError) : PlayerError := .opening (.reader e)

/-- An error of the library. -/
def ofLibrary (e : LibraryError) : PlayerError := .opening (.library e)

/-- What is told about an error. -/
def report : PlayerError → Report
  | opening e => e.report
  | referenceInvalid ref =>
    ⟨"CLI_SOURCE_REF_INVALID", s!"Unsupported library ref: {ref}", none⟩
  | directoryNotFound path =>
    ⟨"CLI_SOURCE_NOT_FOUND", s!"trees-dir does not exist: {path}", none⟩
  | notDirectory path => ⟨"CLI_SOURCE_NOT_DIR", s!"trees-dir is not a directory: {path}", none⟩
  | noTrees path => ⟨"CLI_SOURCE_EMPTY", s!"No .tree.json files under {path}", none⟩
  | globalsNotFound path =>
    ⟨"CLI_GLOBALS_NOT_FOUND", s!"globals file does not exist: {path}", none⟩
  | sourceUnreadable path => ⟨"CLI_SOURCE_READ", s!"no readable text: {path}", none⟩
  | saveNotFound path => ⟨"CLI_STATE_NOT_FOUND", s!"State file does not exist: {path}", none⟩
  | saveUnreadable path => ⟨"CLI_STATE_READ", s!"no readable text: {path}", none⟩
  | saveInvalid path => ⟨"CLI_STATE_INVALID", s!"not the JSON of a saved state: {path}", none⟩
  | saveSchema found => ⟨"CLI_STATE_SCHEMA", s!"Unsupported player state schema: {found}", none⟩
  | saveUnwritable path => ⟨"CLI_STATE_WRITE", s!"cannot be written: {path}", none⟩
  | saveOfOtherLibrary expected actual =>
    ⟨"PLAY_STATE_LIBRARY_MISMATCH",
      s!"State library mismatch. expected={expected} actual={actual}", none⟩
  | inputUnreadable => ⟨"PLAY_IO", "the input is no text", none⟩

/-- The lines in which a command tells of an error (`emit_error`). -/
def lines (e : PlayerError) : List String :=
  ["RESULT:ERROR", "ERROR_CODE:" ++ e.report.code,
    "ERROR_MSG_JSON:" ++ (Json.text e.report.message).compact]

end PlayerError

end DialogueTree
