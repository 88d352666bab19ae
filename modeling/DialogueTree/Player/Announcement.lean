import DialogueTree.Json.Printer
import DialogueTree.Reader.Stop

/-!
# Announcements

A stop in lines that another program can take apart: the result, the event, the speaker if one is
announced, the text, the choices, and the file that holds the state. Texts are JSON strings, so
each of them keeps to its line.

* `Announcement.lines`: the lines of an announcement.
* `Stop.lines`: the lines of a stop.
-/

namespace DialogueTree

/-- The kinds of stop. -/
inductive StopKind where
  | dialogue
  | branch
  | finish
  deriving DecidableEq

/-- The name of a kind of stop. -/
def StopKind.name : StopKind → String
  | .dialogue => "DIALOGUE"
  | .branch => "BRANCH"
  | .finish => "END"

namespace Output

/-- The kind of what is shown. -/
def stopKind : Output → StopKind
  | .dialogue _ => .dialogue
  | .branch .. => .branch
  | .finish => .finish

/-- The line or question that is shown. -/
def text? : Output → Option String
  | .dialogue text => some text
  | .branch question _ => some question
  | .finish => none

/-- The answers that are offered. -/
def answers : Output → List Answer
  | .branch _ answers => answers
  | _ => []

/-- Whether the conversation is over. -/
def isFinish (o : Output) : Bool := o == .finish

end Output

/-- A text as a JSON string. -/
def quoted (s : String) : String := (Json.text s).compact

/-- A choice with its number. -/
def Answer.line (a : Answer) : String := s!"CHOICE:{a.index}|" ++ quoted a.text

/-- What is told about a stop (`StopResult`). -/
structure Announcement where
  kind : StopKind
  speaker : Option String := none
  text : Option String := none
  choices : List Answer := []
  deriving DecidableEq

/-- The lines of an announcement. `state` is the file that the conversation has been saved in. -/
def Announcement.lines (a : Announcement) (state : Option String) : List String :=
  ["RESULT:OK", "EVENT:" ++ a.kind.name] ++
    (a.speaker.map fun name => "SPEAKER_JSON:" ++ quoted name).toList ++
    (a.text.map fun text => "TEXT_JSON:" ++ quoted text).toList ++
    a.choices.map (·.line) ++ ["STATE_OUT:" ++ state.getD "NONE"]

namespace Stop

/-- The speaker to announce; nobody speaks at the end. -/
def speaker? (s : Stop) : Option String := if s.output.isFinish then none else s.speaker

/-- What is told about a stop. -/
def announcement (s : Stop) : Announcement :=
  ⟨s.output.stopKind, s.speaker?, s.output.text?, s.output.answers⟩

/-- The lines of a stop (`emit_stop`). -/
def lines (s : Stop) (state : Option String) : List String := s.announcement.lines state

end Stop

end DialogueTree
