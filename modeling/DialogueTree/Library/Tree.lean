import DialogueTree.Document.Basic
import DialogueTree.Store

/-!
# Trees in play

A tree document with what readers change about it: the local variables, the default way in, and
the standing speaker. They stay as they are when readers come and go.

* `Tree.ofDocument`: a tree as authored.
* `Tree.reset`: back to what was authored.
-/

namespace DialogueTree

/-- A document and its state (`TreeInstance`). -/
structure Tree where
  document : Document
  locals : Store
  defaultStart : Int32
  speaker : Speaker
  deriving DecidableEq

namespace Tree

/-- A tree as authored (`TreeInstance.new`). -/
def ofDocument (d : Document) : Tree := ⟨d, ⟨d.declared⟩, d.defaultStart, d.defaultSpeaker⟩

/-- The name of a tree. -/
def name (t : Tree) : String := t.document.name

/-- A tree with its authored state (`TreeInstance.reset`). -/
def reset (t : Tree) : Tree := ofDocument t.document

@[simp] theorem document_reset (t : Tree) : t.reset.document = t.document := rfl

end Tree

end DialogueTree
