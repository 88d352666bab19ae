import DialogueTree.Reader.Session
import DialogueTree.Template

/-!
# What a reader shows

The line, the question with its answers, or the end that a reader rests on, with all templates
expanded.

* `Session.output`: what is to be shown.
* `Session.speakerName?`: who speaks.
-/

namespace DialogueTree

/-- An answer to a question, with the exit slot it takes (`ChoiceItem`). -/
structure Answer where
  index : Nat
  text : String
  deriving DecidableEq

/-- What is shown at a place of rest (`ReaderOutput`). -/
inductive Output where
  | dialogue (text : String)
  | branch (question : String) (answers : List Answer)
  | finish
  deriving DecidableEq

namespace Document

/-- The text that leads into a question. -/
def questionText (d : Document) (n : Node) : String :=
  match n.inputAt? 0 with
  | some source => d.lineText source
  | none => ""

/-- The links into a question that carry its answers, ordered by slot; links on one slot keep
their order. -/
def answerLinks (n : Node) : List Link :=
  (n.inputs.filter (0 < ·.slot)).mergeSort fun a b => a.slot ≤ b.slot

/-- What is shown at a node, its texts passed through `expand`. -/
def output (d : Document) (expand : String → String) (cursor : Nat) :
    Except ReaderError Output := do
  let n ← d.nodeAt cursor
  match n.content with
  | .dialogue text _ => return .dialogue (expand text)
  | .branch .. =>
    return .branch (expand (d.questionText n))
      ((answerLinks n).map fun link => ⟨link.slot - 1, expand (d.lineText link.node)⟩)
  | .finish => return .finish
  | _ => throw (.noOutput n.type cursor)

end Document

namespace Session

/-- What templates stand for in a tree. -/
def setting (s : Session) (t : Tree) : Template.Setting :=
  ⟨t.locals, s.library.globals, t.speaker.name⟩

/-- A text with its templates expanded (`TreeReader.expand`). -/
def expand (s : Session) (text : String) : Except ReaderError String :=
  match s.tree? with
  | some t => .ok (Template.expand (s.setting t) text)
  | none => .error .noTree

/-- What is shown at the place where the reader rests (`TreeReader.current_output`). -/
def output (s : Session) : Except ReaderError Output :=
  match s.loaded? with
  | none => .error .noTree
  | some (p, t) => t.document.output (Template.expand (s.setting t)) p.cursor

/-- The name of the speaker, expanded (`TreeReader.speaker_name`). The speaker's name inside a
speaker's name stays as it is written. -/
def speakerName? (s : Session) : Option String :=
  s.tree?.map fun t => Template.expand (s.setting t) t.speaker.name

/-- The position of the node that the reader rests on (`TreeReader.current_index`). -/
def cursor? (s : Session) : Option Nat := s.loaded?.map (·.1.cursor)

/-- The kind of the node that the reader rests on (`TreeReader.current_node_type`). -/
def nodeType? (s : Session) : Option NodeType :=
  s.loaded?.bind fun (p, t) => t.document.nodeType? p.cursor

/-- The kind of the node that the only exit leads to (`TreeReader.next_node_type`). -/
def nextType? (s : Session) : Option NodeType :=
  s.loaded?.bind fun (p, t) => do
    let next ← (← t.document.node? p.cursor).onlyOutput?
    t.document.nodeType? next

end Session

end DialogueTree
