import DialogueTree.Document.Edit

/-!
# Building documents

Putting a document together node by node. A step that fails changes nothing, and the first failure
is what `Builder.build` reports.

* `Builder.add`: a new node at the end.
* `Builder.build`: the document, or the first failure.
-/

namespace DialogueTree

/-- A document in the making (`TreeBuilder`). -/
structure Builder where
  document : Document
  failure : Option EditError := none

namespace Builder

/-- A document without nodes. -/
def new (name : String) : Builder := ⟨{ name := name }, none⟩

/-- Sets the default way in. -/
def defaultStart (b : Builder) (id : Int32) : Builder :=
  { b with document := { b.document with defaultStart := id } }

/-- Declares a variable after those that are declared already. -/
def declare (b : Builder) (v : Variable) : Builder :=
  { b with document := { b.document with declared := b.document.declared ++ [v] } }

/-- The position of the next node. -/
def next (b : Builder) : Nat := b.document.nodes.length

/-- Adds a node at the end (`TreeBuilder.add`). -/
def add (b : Builder) (content : Content) : Builder :=
  { b with document :=
    { b.document with nodes := b.document.nodes ++ [{ index := b.next, content := content }] } }

/-- A question with the fewest pins (`TreeBuilder.branch`). -/
def branch (b : Builder) : Builder := b.add (.branch fewestInPins fewestOutPins)

/-- Tries an edit, and keeps the failure if it is the first one. -/
def edit (b : Builder) (f : Document → Except EditError Document) : Builder :=
  match f b.document with
  | .ok d => { b with document := d }
  | .error e => { b with failure := b.failure.or (some e) }

/-- Adds an edge (`TreeBuilder.connect`). -/
def connect (b : Builder) (source sourceSlot target targetSlot : Nat) : Builder :=
  b.edit (·.connect source sourceSlot target targetSlot)

/-- Adds an edge between the first slots (`TreeBuilder.chain`). -/
def chain (b : Builder) (source target : Nat) : Builder := b.connect source 0 target 0

/-- Gives a question one more choice (`TreeBuilder.add_choice`). -/
def addChoice (b : Builder) (node : Nat) : Builder := b.edit (·.addChoice node)

/-- The document, unless a step has failed (`TreeBuilder.build`). -/
def build (b : Builder) : Except EditError Document :=
  match b.failure with
  | some e => .error e
  | none => .ok b.document

end Builder

end DialogueTree
