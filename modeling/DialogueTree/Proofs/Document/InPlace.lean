import DialogueTree.Proofs.Document.Links
import DialogueTree.Proofs.InPlace

/-!
# Edits in place

A document is edited in place, one change after another, and what has been changed before a failure
would stay changed. Everything that an edit may be refused for is looked at before its first change,
so an edit that fails leaves the document as it was.

Pins are counted in 64 bits. Whether sums are checked is settled when the program is built: it is
when the program is debugged, and it is not in a release. Where sums are not checked, the count of a
question that has all the pins there can be starts again from zero. Where they are, the edit stops
there instead; this is the only sum that an edit may come to, and it is made before the first
change.

Results:
* `Editing.exec_forM_change`: changes of many nodes.
* `Editing.exec_connect`, `Editing.exec_addChoice`, `Editing.exec_removeChoice`: each edit.
* `Edit.exec_inPlace`: an edit in place does all that the edit does, or nothing.
* `Edit.exec_inPlace_checked`: what is different where sums are checked.
-/

namespace DialogueTree

/-- Why an edit goes no further: it is refused, or it comes to a sum that does not fit. -/
inductive EditHalt where
  | refused (e : EditError)
  | overflow
  deriving DecidableEq

/-- A program that changes a document. -/
abbrev Editing := InPlace Document EditHalt

namespace Editing

open InPlace Outcome

/-- Changes the node at a position. -/
def change (i : Nat) (f : Node → Node) : Editing Unit := modify (·.modifyNode i f)

/-- Adds an edge. -/
def connect (source sourceSlot target targetSlot : Nat) : Editing Unit := do
  let d ← get
  refuseIf (d.nodes.length ≤ source ∨ d.nodes.length ≤ target)
    (.refused (.connectOutOfRange source target d.nodes.length))
  change source fun n => { n with outputs := n.outputs ++ [⟨target, sourceSlot⟩] }
  change target fun n => { n with inputs := n.inputs ++ [⟨source, targetSlot⟩] }

/-- The pins of the question at a position. -/
def branchPins (branch : Nat) : Editing (Nat × Nat) :=
  ask fun d => (d.branchPins branch).mapError .refused

/-- One more pin. Where sums are `checked`, the edit goes no further if it does not fit. -/
def onePinMore (checked : Bool) (pins : Nat) : Editing Nat := do
  refuseIf (checked = true ∧ indexLimit ≤ pins + 1) .overflow
  return Document.onePinMore pins

/-- Gives a question one more choice. -/
def addChoice (checked : Bool) (branch : Nat) : Editing Unit := do
  let (inPins, outPins) ← branchPins branch
  let inPins ← onePinMore checked inPins
  let outPins ← onePinMore checked outPins
  change branch fun n => { n with content := .branch inPins outPins }

/-- Takes the links on the last slots out of a question, then their far ends out of the nodes where
they lead, and then the pins. -/
def dropChoice (branch inPins outPins : Nat) (sources targets : List Document.Occurrence) :
    Editing Unit := do
  change branch fun n => { n with inputs := n.inputs.filter (·.slot != inPins - 1) }
  change branch fun n => { n with outputs := n.outputs.filter (·.slot != outPins - 1) }
  sources.forM fun e => change e.node fun n =>
    { n with outputs := Document.dropOccurrence branch e.earlier n.outputs }
  targets.forM fun e => change e.node fun n =>
    { n with inputs := Document.dropOccurrence branch e.earlier n.inputs }
  change branch fun n => { n with content := .branch (inPins - 1) (outPins - 1) }

/-- Takes the last choice from a question. -/
def removeChoice (branch : Nat) : Editing Unit := do
  let (inPins, outPins) ← branchPins branch
  refuseIf (inPins ≤ fewestInPins ∨ outPins ≤ fewestOutPins) (.refused (.fewestChoices branch))
  let d ← get
  let sources := Document.occurrences (d.links false branch) (inPins - 1)
  let targets := Document.occurrences (d.links true branch) (outPins - 1)
  match (sources ++ targets).find? (d.nodes.length ≤ ·.node) with
  | some edge => throw (.refused (.linkOutOfRange branch edge.node))
  | none => dropChoice branch inPins outPins sources targets

/-! ## What programs come to -/

@[simp] theorem exec_change (i : Nat) (f : Node → Node) (d : Document) :
    (change i f).exec d = (.ok (), d.modifyNode i f) := rfl

/-- Changes of many nodes cannot fail. -/
@[simp] theorem exec_forM_change {edges : List Document.Occurrence}
    (f : Document.Occurrence → Node → Node) (d : Document) :
    exec (edges.forM fun e => change e.node (f e)) d =
      (.ok (), edges.foldl (fun d e => d.modifyNode e.node (f e)) d) := by
  induction edges generalizing d with
  | nil => rfl
  | cons e edges ih => exact ih (d.modifyNode e.node (f e))

theorem modifyNode_modifyNode (d : Document) (i : Nat) (f g : Node → Node) :
    (d.modifyNode i f).modifyNode i g = d.modifyNode i (g ∘ f) :=
  congrArg (fun nodes => { d with nodes := nodes }) (List.modify_modify_eq f g i d.nodes)

theorem exec_branchPins (branch : Nat) (d : Document) :
    (branchPins branch).exec d = ((d.branchPins branch).mapError .refused, d) := rfl

theorem exec_onePinMore {checked : Bool} {pins : Nat}
    (h : ¬(checked = true ∧ indexLimit ≤ pins + 1)) (d : Document) :
    (onePinMore checked pins).exec d = (.ok (Document.onePinMore pins), d) := by
  unfold onePinMore
  rw [exec_bind, exec_refuseIf, if_neg h]
  rfl

theorem exec_onePinMore_overflow {pins : Nat} (h : indexLimit ≤ pins + 1) (d : Document) :
    (onePinMore true pins).exec d = (.error .overflow, d) := by
  unfold onePinMore
  rw [exec_bind, exec_refuseIf, if_pos ⟨rfl, h⟩]

/-! ## The edits -/

variable {branch : Nat} {d : Document}

theorem exec_connect (source sourceSlot target targetSlot : Nat) (d : Document) :
    (connect source sourceSlot target targetSlot).exec d =
      whole d ((d.connect source sourceSlot target targetSlot).mapError .refused) := by
  unfold connect Document.connect
  simp only [exec_bind, exec_get, exec_refuseIf]
  by_cases h : source < d.nodes.length ∧ target < d.nodes.length
  · rw [if_neg (by omega), if_pos h]
    rfl
  · rw [if_pos (by omega), if_neg h]
    rfl

/-- A choice is added, or the edit is refused, where no sum is checked that does not fit. -/
theorem exec_addChoice {checked : Bool}
    (h : ∀ inPins outPins, d.branchPins branch = .ok (inPins, outPins) →
      ¬(checked = true ∧ (indexLimit ≤ inPins + 1 ∨ indexLimit ≤ outPins + 1))) :
    (addChoice checked branch).exec d = whole d ((d.addChoice branch).mapError .refused) := by
  unfold addChoice Document.addChoice
  rw [exec_bind, exec_branchPins]
  cases hpins : d.branchPins branch with
  | error e => rfl
  | ok pins =>
    obtain ⟨inPins, outPins⟩ := pins
    have hfits := h inPins outPins hpins
    rw [mapError_ok]
    dsimp only
    rw [exec_bind, exec_onePinMore fun hin => hfits ⟨hin.1, .inl hin.2⟩]
    dsimp only
    rw [exec_bind, exec_onePinMore fun hout => hfits ⟨hout.1, .inr hout.2⟩]
    rfl

/-- Where sums are checked, nothing has been changed before one that does not fit. -/
theorem exec_addChoice_overflow {inPins outPins : Nat}
    (hpins : d.branchPins branch = .ok (inPins, outPins))
    (h : indexLimit ≤ inPins + 1 ∨ indexLimit ≤ outPins + 1) :
    (addChoice true branch).exec d = (.error .overflow, d) := by
  unfold addChoice
  rw [exec_bind, exec_branchPins, hpins, mapError_ok]
  dsimp only
  rw [exec_bind]
  by_cases hin : indexLimit ≤ inPins + 1
  · rw [exec_onePinMore_overflow hin]
  · rw [exec_onePinMore fun hfull => hin hfull.2]
    dsimp only
    rw [exec_bind, exec_onePinMore_overflow (h.resolve_left hin)]

theorem exec_dropChoice (branch inPins outPins : Nat) (d : Document) :
    (dropChoice branch inPins outPins (Document.occurrences (d.links false branch) (inPins - 1))
      (Document.occurrences (d.links true branch) (outPins - 1))).exec d =
        (.ok (), d.withoutChoice branch inPins outPins) := by
  simp only [dropChoice, exec_bind, exec_change, exec_forM_change, modifyNode_modifyNode]
  rfl

theorem exec_removeChoice (branch : Nat) (d : Document) :
    (removeChoice branch).exec d = whole d ((d.removeChoice branch).mapError .refused) := by
  have hinputs : (d.node? branch).elim [] (·.inputs) = d.links false branch := rfl
  have houtputs : (d.node? branch).elim [] (·.outputs) = d.links true branch := rfl
  unfold removeChoice Document.removeChoice
  rw [exec_bind, exec_branchPins, hinputs, houtputs]
  cases d.branchPins branch with
  | error e => rfl
  | ok pins =>
    obtain ⟨inPins, outPins⟩ := pins
    rw [mapError_ok]
    simp only [exec_bind, exec_get, exec_refuseIf]
    by_cases hpins : inPins ≤ fewestInPins ∨ outPins ≤ fewestOutPins
    · rw [if_pos hpins]
      simp only [bind, Except.bind, if_pos hpins]
      rfl
    · rw [if_neg hpins]
      simp only [bind, Except.bind, if_neg hpins]
      cases (Document.occurrences (d.links false branch) (inPins - 1) ++
          Document.occurrences (d.links true branch) (outPins - 1)).find?
        (d.nodes.length ≤ ·.node) with
      | some edge => rfl
      | none => exact exec_dropChoice branch inPins outPins d

end Editing

/-! ## Edits as programs -/

namespace Edit

/-- An edit as a program, where sums are `checked` or not. -/
def inPlace (checked : Bool) : Edit → Editing Unit
  | connect source sourceSlot target targetSlot =>
    Editing.connect source sourceSlot target targetSlot
  | addChoice branch => Editing.addChoice checked branch
  | removeChoice branch => Editing.removeChoice branch

/-- Whether an edit comes to a sum that does not fit: it gives one more choice to a question that
has all the pins there can be on one of its sides. -/
def Overflows (d : Document) : Edit → Prop
  | addChoice branch => ∃ inPins outPins, d.branchPins branch = .ok (inPins, outPins) ∧
      (indexLimit ≤ inPins + 1 ∨ indexLimit ≤ outPins + 1)
  | _ => False

/-- An edit in place does all that the edit does, or nothing. -/
theorem exec_inPlace (e : Edit) (d : Document) :
    (e.inPlace false).exec d = InPlace.whole d ((e.run d).mapError .refused) := by
  cases e with
  | connect source sourceSlot target targetSlot =>
    exact Editing.exec_connect source sourceSlot target targetSlot d
  | addChoice branch => exact Editing.exec_addChoice fun _ _ _ h => Bool.false_ne_true h.1
  | removeChoice branch => exact Editing.exec_removeChoice branch d

/-- Where sums are checked, an edit that overflows stops and leaves the document as it was. All
other edits do what they do where sums are not checked. -/
theorem exec_inPlace_checked (e : Edit) (d : Document) :
    (e.Overflows d → (e.inPlace true).exec d = (.error .overflow, d)) ∧
      (¬e.Overflows d → (e.inPlace true).exec d = (e.inPlace false).exec d) := by
  cases e with
  | connect | removeChoice => exact ⟨False.elim, fun _ => rfl⟩
  | addChoice branch =>
    refine ⟨fun ⟨_, _, hpins, h⟩ => Editing.exec_addChoice_overflow hpins h, fun h => ?_⟩
    rw [exec_inPlace]
    exact Editing.exec_addChoice fun inPins outPins hpins hfull =>
      h ⟨inPins, outPins, hpins, hfull.2⟩

end Edit

end DialogueTree
