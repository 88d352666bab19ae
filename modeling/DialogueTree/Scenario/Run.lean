import DialogueTree.Reader.Opening
import DialogueTree.Scenario.Case

/-!
# Running test cases

A case is played against a library: lines are passed by, questions are answered from the list of
the case, and every stop is recorded. The recorded events are then compared with the expected
ones.

* `TestCase.run`: what is recorded.
* `TestCase.compare`: where expectation and record differ.

Where a message quotes the file system or the JSON reader, it has a wording of its own here.
-/

namespace DialogueTree

/-- Why a case fails (`BdToolError`). -/
inductive ScenarioError where
  | unreadable (path : String)
  | unparsable (path : String)
  | schema (found : String)
  | noTrees (path : String)
  | opening (e : OpeningError)
  | missingChoice (event : Nat)
  | unusedChoices (used total : Nat)
  | tooLong (steps : Nat)
  | eventCount (expected actual : Nat) (observed : List Event)
  | eventMismatch (index : Nat) (expected actual : Event)
  deriving DecidableEq

/-- An error of the reader. -/
def ScenarioError.ofReader (e : ReaderError) : ScenarioError := .opening (.reader e)

/-- What is wrong with a file that cannot be read. -/
def unreadableDetail : String := "no readable text"

/-- What is wrong with a file that is no case. -/
def unparsableDetail : String := "not the JSON of a case"

/-- What is told about a failure. -/
def ScenarioError.message : ScenarioError → String
  | unreadable path => s!"Failed to read file {path}: {unreadableDetail}"
  | unparsable path => s!"Failed to parse testcase {path}: {unparsableDetail}"
  | schema found => s!"Invalid testcase schema version \"{found}\", expected \"{caseSchema}\"."
  | noTrees path => s!"No .tree.json files under {path}."
  | opening e => "Reader error: " ++ e.report.line
  | missingChoice event => s!"Choice missing at event index {event}."
  | unusedChoices used total => s!"Unused choices: used {used} of {total}."
  | tooLong steps => s!"Guard exceeded: max_steps={steps}."
  | eventCount expected actual observed =>
    s!"Expected event count {expected}, actual {actual}. observed=" ++
      (Json.ofList Event.toJson observed).pretty
  | eventMismatch index expected actual =>
    s!"Event mismatch at index {index}. expected={expected.toJson.compact} " ++
      s!"actual={actual.toJson.compact}"

/-- What a run of a case has recorded once it is at the end of the conversation (`RunReport`). -/
structure RunReport where
  events : List Event
  consumed : Nat
  steps : Nat
  deriving DecidableEq

/-- A run on its way: the conversation, the number of the stop that comes next, the events so far
with the last one first, and the number of answers given. -/
structure Progress where
  session : Session
  step : Nat := 1
  events : List Event := []
  used : Nat := 0

namespace Progress

/-- The most stops of a run (`MAX_STEPS`). -/
def stepLimit : Nat := 1000

/-- Goes on to the next step from a stop whose event has been recorded, unless it is the end. -/
def answer (p : Progress) (choices : List Nat) : Output → Except ScenarioError (Option Progress)
  | .dialogue _ =>
    match p.session.advance with
    | (.ok _, s) => .ok (some { p with session := s, step := p.step + 1 })
    | (.error e, _) => .error (.ofReader e)
  | .branch .. =>
    match choices[p.used]? with
    | none => .error (.missingChoice (p.events.length - 1))
    | some choice =>
      match p.session.choose choice with
      | (.ok _, s) => .ok (some { p with session := s, step := p.step + 1, used := p.used + 1 })
      | (.error e, _) => .error (.ofReader e)
  | .finish => .ok none

/-- Records the stop where the conversation rests. The speaker is asked for at the first step. -/
def record (p : Progress) : Except ScenarioError (Stop × Progress) :=
  match p.session.stop (p.step == 1) with
  | (.ok stop, s) => .ok (stop, { p with session := s, events := .ofStop stop :: p.events })
  | (.error e, _) => .error (.ofReader e)

/-- The report at the end of a conversation, where no answer may be left. -/
def report (p : Progress) (choices : List Nat) : Except ScenarioError RunReport :=
  if p.used ≠ choices.length then .error (.unusedChoices p.used choices.length)
  else .ok ⟨p.events.reverse, p.used, p.step⟩

/-- Goes on for at most `rounds` steps (the loop of `run_case`). -/
def run (choices : List Nat) : Nat → Progress → Except ScenarioError RunReport
  | 0, _ => .error (.tooLong stepLimit)
  | rounds + 1, p => do
    let (stop, recorded) ← p.record
    match ← recorded.answer choices stop.output with
    | some next => run choices rounds next
    | none => recorded.report choices

end Progress

namespace TestCase

/-- Plays a case against a library (`run_case`). -/
def run (c : TestCase) (l : Library) : Except ScenarioError RunReport :=
  match l.start c.tree c.start with
  | (.ok _, s) => Progress.run c.choices Progress.stepLimit { session := s }
  | (.error e, _) => .error (.opening e)

/-- The first position where two lists of events differ. -/
def firstDifference : List Event → List Event → Nat → Except ScenarioError Unit
  | e :: expected, a :: actual, i =>
    if e = a then firstDifference expected actual (i + 1) else .error (.eventMismatch i e a)
  | _, _, _ => .ok ()

/-- Compares what is expected with what has been recorded: first the number of events, then each of
them (the end of `assert_case`). -/
def compare (c : TestCase) (r : RunReport) : Except ScenarioError Unit :=
  if r.events.length ≠ c.expected.length then
    .error (.eventCount c.expected.length r.events.length r.events)
  else firstDifference c.expected r.events 0

end TestCase

end DialogueTree
