import DialogueTree.Decimal.Whole
import DialogueTree.Player.Agent
import DialogueTree.Text.Blank
import DialogueTree.Text.Quoted

/-!
# Playing at a prompt

A conversation that someone reads and answers line by line: an empty line goes on, a number
answers a question, and words after a colon are commands. Input that means nothing is told of and
changes nothing.

* `Play.present`: a stop as it is shown.
* `Play.answer`: what a line at the prompt does.
* `Play.run`: a conversation over all lines of an input.
-/

namespace DialogueTree

namespace Play

/-- What stays the same while a conversation is played. -/
structure Setting where
  catalogue : Catalogue
  beginning : Beginning
  saveFile : Path

/-- A conversation that waits for a line, and what has been shown last. -/
structure Prompt where
  session : Session
  shown : Output

/-- What comes after a line: another one, the end with an exit code, or an error. -/
inductive Next where
  | prompt (p : Prompt)
  | finished
  | failed (e : PlayerError)

/-- What is done with a line: it asks for another one at the same stop, it leads to a stop which is
then shown, or it ends the play. -/
inductive Effect where
  | again
  | moved (s : Session) (announce : Bool)
  | quit

/-- What stands before each line that is read. -/
def promptText : String := "> "

/-- The commands (`HELP_LINE`). -/
def helpLine : String := "commands: :help :save :load :restart :vars :quit"

/-- A choice that is offered. -/
def choiceLine (a : Answer) : String := s!"  [{a.index}] {a.text}"

/-- A variable with all its slots (`describe_variable`). -/
def variableLine (scope : String) (v : Variable) : String :=
  scope ++ v.name ++ ": bool=" ++ listBool v.slots.bool ++ s!" int={v.slots.int.toInt}" ++
    " float=" ++ Layout.plain.text v.slots.float ++ " string=" ++ Text.quote v.slots.text

/-- All variables that the conversation can read. -/
def variableLines (s : Session) : List String :=
  s.locals.toList.map (variableLine "local  ") ++
    s.library.globals.toList.map (variableLine "global ")

/-- A stop as it is shown; the end is one line (`write_stop`). -/
def stopLines (stop : Stop) : List String :=
  if stop.output.isFinish then ["[END]"]
  else [""] ++ (stop.speaker.map fun name => "[" ++ name ++ "]").toList ++
    stop.output.text?.toList ++ stop.output.answers.map choiceLine

/-- Shows the stop where a conversation rests. -/
def present (s : Session) (announce : Bool) : List String × Next :=
  match s.stop announce with
  | (.error e, _) => ([], .failed (.ofReader e))
  | (.ok stop, after) =>
    (stopLines stop, if stop.output.isFinish then .finished else .prompt ⟨after, stop.output⟩)

/-- The start of a play: the title, the commands and the first stop. -/
def opening (setting : Setting) (s : Session) : List String × Next :=
  let (lines, next) := present s true
  (setting.catalogue.title :: helpLine :: lines, next)

/-! ## Lines at the prompt -/

/-- A line that is no command (in the loop of `run_play_line_mode_with_io`): an empty one goes on
from a line of the conversation, a number answers a question. -/
def proceed (p : Prompt) (line : String) : Except PlayerError (List String × Effect) :=
  match p.shown with
  | .branch .. =>
    match Whole.index? (Text.trim line) with
    | none => .ok (["invalid choice: " ++ line], .again)
    | some choice =>
      match p.session.choose choice with
      | (.ok _, after) => .ok ([], .moved after false)
      | (.error (.choiceNotFound ..), _) => .ok ([s!"no such choice: {choice}"], .again)
      | (.error e, _) => .error (.ofReader e)
  | _ =>
    if Text.trim line = "" then
      match p.session.advance with
      | (.ok _, after) => .ok ([], .moved after false)
      | (.error e, _) => .error (.ofReader e)
    else .ok (["press enter to continue, or :help"], .again)

variable {m : Type → Type} [Monad m] [Disk m]

/-- The conversation in the save file, which must be of the library that is played
(`load_reader_from_state_for_library`). -/
def loadSave (setting : Setting) : ExceptT PlayerError m Session := do
  let save ← Save.read setting.saveFile
  if save.libraryId ≠ setting.catalogue.id then
    throw (.saveOfOtherLibrary setting.catalogue.id save.libraryId)
  ExceptT.mk (pure (setting.catalogue.resume save.snapshot))

/-- What a line does: a command, or else a step of the conversation (`handle_play_command`). -/
def obey (setting : Setting) (p : Prompt) (line : String) :
    ExceptT PlayerError m (List String × Effect) := do
  match Text.trim line with
  | ":help" => return ([helpLine], .again)
  | ":save" =>
    let save ← ExceptT.mk (pure (Save.ofSession setting.catalogue.id p.session))
    save.write setting.saveFile
    return (["saved: " ++ setting.saveFile], .again)
  | ":load" => return (["loaded: " ++ setting.saveFile], .moved (← loadSave setting) true)
  | ":restart" =>
    let s ← ExceptT.mk
      (pure (setting.catalogue.start setting.beginning.tree setting.beginning.start))
    return (["restarted"], .moved s true)
  | ":vars" => return (variableLines p.session, .again)
  | ":quit" => return (["bye"], .quit)
  | _ => ExceptT.mk (pure (proceed p line))

/-- A line without the marks at its end (`prompt_input_from`). -/
def bare (line : String) : String :=
  String.ofList (Text.dropEnd (fun c => c = '\r' || c = '\n') line.toList)

/-- What a line at the prompt leads to. A line that is no text ends the play. -/
def answer (setting : Setting) (p : Prompt) : Option String → m (List String × Next)
  | none => return ([], .failed .inputUnreadable)
  | some line => do
    match ← (obey setting p (bare line)).run with
    | .error e => return ([], .failed e)
    | .ok (lines, .again) => return (lines, .prompt p)
    | .ok (lines, .quit) => return (lines, .finished)
    | .ok (lines, .moved s announce) =>
      let (shown, next) := present s announce
      return (lines ++ shown, next)

/-! ## Whole plays -/

/-- Lines as text, each with its line feed (`write_line`). -/
def text (lines : List String) : String := String.join (lines.map (· ++ "\n"))

/-- Reads lines until the play or the input ends (the loop of `run_play_line_mode_with_io`). The
result is what has been written since, and the error if there was one. -/
def converse (setting : Setting) (p : Prompt) :
    List (Option String) → m (String × Except PlayerError Unit)
  | [] => return (promptText, .ok ())
  | line :: rest => do
    let (lines, next) ← answer setting p line
    let written := promptText ++ text lines
    match next with
    | .prompt q =>
      let (more, result) ← converse setting q rest
      return (written ++ more, result)
    | .finished => return (written, .ok ())
    | .failed e => return (written, .error e)

/-- What is played, and where it is saved if no file is named. -/
def begin (b : Beginning) (saveFile : Path) : ExceptT PlayerError m (Setting × Session) := do
  let c ← Catalogue.ofDirectory b.directory b.globals
  let s ← ExceptT.mk (pure (c.start b.tree b.start))
  return (⟨c, b, saveFile⟩, s)

/-- A conversation over all lines of an input (`run_play`). -/
def run (b : Beginning) (saveFile : Path) (input : List (Option String)) :
    m (String × Except PlayerError Unit) := do
  match ← (begin b saveFile).run with
  | .error e => return ("", .error e)
  | .ok (setting, s) =>
    let (lines, next) := opening setting s
    let written := text lines
    match next with
    | .prompt p =>
      let (more, result) ← converse setting p input
      return (written ++ more, result)
    | .finished => return (written, .ok ())
    | .failed e => return (written, .error e)

end Play

end DialogueTree
