import DialogueTree.Document.Builder
import DialogueTree.Proofs.Document.Occurrences
import DialogueTree.Proofs.Outcome

/-!
# What edits do to links

Each edit of a document is described by the link lists on both sides of every node after it: a
connection adds one link on each side, and taking a choice from a question takes out the links on
its last slots and their far ends. The indices that the nodes declare stay the same.

Results:
* `Document.links_connect`, `Document.links_addChoice`, `Document.links_withoutChoice`: the links
  after an edit.
* `Document.removeChoice_eq_ok`: when a choice can be taken from a question.
* `Document.indices_run`: the indices after an edit.
* `Builder.links_add`: a new node has no links.
-/

namespace DialogueTree

/-- The links on one side of a node. -/
def Node.links (n : Node) (outbound : Bool) : List Link := if outbound then n.outputs else n.inputs

namespace Document

open Outcome

variable {d d' : Document} {i j branch : Nat} {outbound : Bool}

/-- The links on one side of the node at a position. -/
def links (d : Document) (outbound : Bool) (i : Nat) : List Link :=
  (d.node? i).elim [] (·.links outbound)

theorem links_of_node? {n : Node} (h : d.node? i = some n) :
    d.links outbound i = n.links outbound := by
  rw [links, h]
  rfl

theorem links_of_missing (h : d.node? i = none) : d.links outbound i = [] := by
  rw [links, h]
  rfl

/-! ## Changing a node -/

theorem node?_modifyNode (d : Document) (j : Nat) (f : Node → Node) (i : Nat) :
    (d.modifyNode j f).node? i = (d.node? i).map fun n => if j = i then f n else n :=
  List.getElem?_modify f j d.nodes i

@[simp] theorem length_modifyNode (d : Document) (j : Nat) (f : Node → Node) :
    (d.modifyNode j f).nodes.length = d.nodes.length :=
  List.length_modify ..

/-- A change of the links of one node leaves those of all others alone. -/
theorem links_modifyNode {f : Node → Node} {g : List Link → List Link}
    (hf : ∀ n, (f n).links outbound = g (n.links outbound)) (hg : d.node? j = none → g [] = []) :
    (d.modifyNode j f).links outbound i =
      if j = i then g (d.links outbound i) else d.links outbound i := by
  rw [links, node?_modifyNode]
  by_cases hi : j = i
  · subst hi
    cases hn : d.node? j with
    | none => simp [links, hn, hg hn]
    | some n => simp [links, hn, hf]
  · cases hn : d.node? i with
    | none => simp [links, hn, hi]
    | some n => simp [links, hn, hi]

theorem links_modifyNode_of_kept {f : Node → Node}
    (hf : ∀ n, (f n).links outbound = n.links outbound) :
    (d.modifyNode j f).links outbound i = d.links outbound i := by
  rw [links_modifyNode (g := id) hf fun _ => rfl, id, ite_self]

/-- The indices that the nodes declare. -/
def indices (d : Document) : List Nat := d.nodes.map (·.index)

@[simp] theorem length_indices (d : Document) : d.indices.length = d.nodes.length :=
  List.length_map ..

/-- Where the indices are the positions, each node declares its own. -/
theorem index_of_indices (h : d.indices = List.range d.nodes.length) {n : Node}
    (hn : d.node? i = some n) : n.index = i := by
  have hi : (d.indices)[i]? = some n.index := by
    rw [indices, List.getElem?_map]
    exact congrArg _ hn
  rw [h] at hi
  obtain ⟨hlt, hget⟩ := List.getElem?_eq_some_iff.mp hi
  simpa using hget.symm

theorem indices_modifyNode {f : Node → Node} (hf : ∀ n, (f n).index = n.index) :
    (d.modifyNode j f).indices = d.indices := by
  refine List.ext_getElem? fun i => ?_
  have hnode : (d.modifyNode j f).nodes[i]? = (d.nodes[i]?).map fun n => if j = i then f n else n :=
    node?_modifyNode d j f i
  rw [indices, indices, List.getElem?_map, List.getElem?_map, hnode, Option.map_map]
  congr 1
  funext n
  by_cases hi : j = i
  · simp [hi, hf]
  · simp [hi]

/-! ## Connections -/

section

variable {source sourceSlot target targetSlot : Nat}

theorem connect_eq_ok (h : d.connect source sourceSlot target targetSlot = .ok d') :
    source < d.nodes.length ∧ target < d.nodes.length ∧
      d' = (d.modifyNode source fun n =>
          { n with outputs := n.outputs ++ [⟨target, sourceSlot⟩] }).modifyNode target fun n =>
        { n with inputs := n.inputs ++ [⟨source, targetSlot⟩] } := by
  unfold connect at h
  split at h
  next hrange => exact ⟨hrange.1, hrange.2, (Except.ok.inj h).symm⟩
  next => cases h

theorem node?_ne_none (h : i < d.nodes.length) : d.node? i ≠ none := by
  simpa [node?] using h

/-- A connection is listed last at both of its ends. -/
theorem links_connect (h : d.connect source sourceSlot target targetSlot = .ok d') (i : Nat) :
    d'.links true i = (d.links true i ++ if source = i then [⟨target, sourceSlot⟩] else []) ∧
    d'.links false i = d.links false i ++ if target = i then [⟨source, targetSlot⟩] else [] := by
  obtain ⟨hsource, htarget, rfl⟩ := connect_eq_ok h
  constructor
  · rw [links_modifyNode_of_kept (by intro n; rfl),
      links_modifyNode (g := (· ++ [⟨target, sourceSlot⟩])) (by intro n; rfl)
        fun hnone => absurd hnone (node?_ne_none hsource)]
    by_cases hi : source = i
    · simp [hi]
    · simp [hi]
  · rw [links_modifyNode (g := (· ++ [⟨source, targetSlot⟩])) (by intro n; rfl)
        fun hnone => absurd hnone (node?_ne_none (by simpa using htarget)),
      links_modifyNode_of_kept (by intro n; rfl)]
    by_cases hi : target = i
    · simp [hi]
    · simp [hi]

end

/-! ## Choices -/

theorem addChoice_eq_ok : d.addChoice branch = .ok d' ↔
    ∃ inPins outPins, d.branchPins branch = .ok (inPins, outPins) ∧
      d.modifyNode branch (fun n =>
        { n with content := .branch (onePinMore inPins) (onePinMore outPins) }) = d' := by
  rw [addChoice, bind_eq_ok, Prod.exists]
  refine exists_congr fun inPins => exists_congr fun outPins => and_congr_right fun _ => ?_
  exact ⟨Except.ok.inj, congrArg Except.ok⟩

theorem links_addChoice (h : d.addChoice branch = .ok d') (outbound : Bool) (i : Nat) :
    d'.links outbound i = d.links outbound i := by
  obtain ⟨inPins, outPins, -, rfl⟩ := addChoice_eq_ok.mp h
  exact links_modifyNode_of_kept fun _ => rfl

/-- A document without the last choice of a question. -/
def withoutChoice (d : Document) (branch inPins outPins : Nat) : Document :=
  let inSlot := inPins - 1
  let outSlot := outPins - 1
  let trimmed := d.modifyNode branch fun n =>
    { n with
      inputs := n.inputs.filter (·.slot != inSlot)
      outputs := n.outputs.filter (·.slot != outSlot) }
  ((trimmed.dropSources branch (occurrences (d.links false branch) inSlot)).dropTargets branch
      (occurrences (d.links true branch) outSlot)).modifyNode branch fun n =>
    { n with content := .branch inSlot outSlot }

theorem removeChoice_eq_ok : d.removeChoice branch = .ok d' ↔
    ∃ inPins outPins, d.branchPins branch = .ok (inPins, outPins) ∧ fewestInPins < inPins ∧
      fewestOutPins < outPins ∧
      (∀ edge ∈ occurrences (d.links false branch) (inPins - 1) ++
        occurrences (d.links true branch) (outPins - 1), edge.node < d.nodes.length) ∧
      d.withoutChoice branch inPins outPins = d' := by
  rw [removeChoice, bind_eq_ok, Prod.exists]
  refine exists_congr fun inPins => exists_congr fun outPins => and_congr_right fun _ => ?_
  dsimp only
  by_cases hpins : inPins ≤ fewestInPins ∨ outPins ≤ fewestOutPins
  · rw [if_pos hpins]
    constructor
    · intro h
      cases h
    · rintro ⟨hin, hout, -⟩
      omega
  · rw [if_neg hpins]
    obtain ⟨hin, hout⟩ : fewestInPins < inPins ∧ fewestOutPins < outPins := by omega
    split
    next edge hedge =>
      refine ⟨nofun, fun ⟨_, _, hends, _⟩ => ?_⟩
      have hmissing : d.nodes.length ≤ edge.node := by simpa using List.find?_some hedge
      exact absurd (hends edge (List.mem_of_find?_eq_some hedge)) (Nat.not_lt.mpr hmissing)
    next hnone =>
      have hends := List.find?_eq_none.mp hnone
      simp only [decide_eq_true_eq, Nat.not_le] at hends
      exact ⟨fun h => ⟨hin, hout, hends, Except.ok.inj h⟩, fun h => congrArg Except.ok h.2.2.2⟩

/-- The last slot on one side of a question. -/
def lastSlot (inPins outPins : Nat) (outbound : Bool) : Nat :=
  (if outbound then outPins else inPins) - 1

/-- The far ends of some edges of a question are taken out where the edges lead. -/
theorem links_foldl_modifyNode {edges : List Occurrence} {f : Occurrence → Node → Node}
    (hf : ∀ e n, (f e n).links outbound = dropOccurrence branch e.earlier (n.links outbound)) :
    (edges.foldl (fun d e => d.modifyNode e.node (f e)) d).links outbound i =
      dropRanks branch ((edges.filter (·.node == i)).map (·.earlier)) (d.links outbound i) := by
  induction edges generalizing d with
  | nil => rfl
  | cons e edges ih =>
    rw [List.foldl_cons, ih, links_modifyNode (hf e) fun _ => by cases e.earlier <;> rfl]
    by_cases hi : e.node = i
    · simp [hi, dropRanks]
    · simp [hi]

theorem links_foldl_modifyNode_of_kept {edges : List Occurrence} {f : Occurrence → Node → Node}
    (hf : ∀ e n, (f e n).links outbound = n.links outbound) :
    (edges.foldl (fun d e => d.modifyNode e.node (f e)) d).links outbound i =
      d.links outbound i := by
  induction edges generalizing d with
  | nil => rfl
  | cons e edges ih => rw [List.foldl_cons, ih, links_modifyNode_of_kept (hf e)]

theorem links_dropSources (edges : List Occurrence) :
    (d.dropSources branch edges).links outbound i =
      if outbound then dropRanks branch ((edges.filter (·.node == i)).map (·.earlier))
        (d.links outbound i)
      else d.links outbound i := by
  cases outbound with
  | true => exact links_foldl_modifyNode fun _ _ => rfl
  | false => exact links_foldl_modifyNode_of_kept fun _ _ => rfl

theorem links_dropTargets (edges : List Occurrence) :
    (d.dropTargets branch edges).links outbound i =
      if outbound then d.links outbound i
      else
        dropRanks branch ((edges.filter (·.node == i)).map (·.earlier)) (d.links outbound i) := by
  cases outbound with
  | true => exact links_foldl_modifyNode_of_kept fun _ _ => rfl
  | false => exact links_foldl_modifyNode fun _ _ => rfl

/-- The links of the question on its last slots are taken out, and their far ends are looked for
in what is left. The ranks of the far ends are those in the lists as they were before. -/
theorem links_withoutChoice (inPins outPins : Nat) (outbound : Bool) (i : Nat) :
    let slot := lastSlot inPins outPins
    (d.withoutChoice branch inPins outPins).links outbound i =
      dropRanks branch (ranks (d.links (!outbound) branch) (slot (!outbound)) i)
        (if branch = i then (d.links outbound i).filter (·.slot != slot outbound)
          else d.links outbound i) := by
  intro slot
  rw [withoutChoice, links_modifyNode_of_kept (by intro n; rfl), links_dropTargets,
    links_dropSources]
  cases outbound with
  | true =>
    rw [links_modifyNode (g := List.filter (·.slot != slot true)) (by intro n; rfl) fun _ => rfl]
    rfl
  | false =>
    rw [links_modifyNode (g := List.filter (·.slot != slot false)) (by intro n; rfl) fun _ => rfl]
    rfl

theorem indices_foldl_modifyNode {edges : List Occurrence} {f : Occurrence → Node → Node}
    (hf : ∀ e n, (f e n).index = n.index) :
    (edges.foldl (fun d e => d.modifyNode e.node (f e)) d).indices = d.indices := by
  induction edges generalizing d with
  | nil => rfl
  | cons e edges ih => rw [List.foldl_cons, ih, indices_modifyNode (hf e)]

theorem indices_withoutChoice (inPins outPins : Nat) :
    (d.withoutChoice branch inPins outPins).indices = d.indices := by
  rw [withoutChoice, indices_modifyNode (by intro n; rfl), dropTargets,
    indices_foldl_modifyNode (by intro e n; rfl), dropSources,
    indices_foldl_modifyNode (by intro e n; rfl), indices_modifyNode (by intro n; rfl)]

end Document

/-! ## Edits -/

/-- An edit of a document. -/
inductive Edit where
  | connect (source sourceSlot target targetSlot : Nat)
  | addChoice (branch : Nat)
  | removeChoice (branch : Nat)

/-- What an edit makes of a document. -/
def Edit.run (d : Document) : Edit → Except EditError Document
  | connect source sourceSlot target targetSlot =>
    d.connect source sourceSlot target targetSlot
  | addChoice branch => d.addChoice branch
  | removeChoice branch => d.removeChoice branch

namespace Document

/-- A document after some edits. Those that fail change nothing. -/
def edited (d : Document) : List Edit → Document
  | [] => d
  | e :: rest => ((e.run d).toOption.getD d).edited rest

/-- No edit changes the indices that the nodes declare. -/
theorem indices_run {d d' : Document} {e : Edit} (h : e.run d = .ok d') :
    d'.indices = d.indices := by
  cases e with
  | connect source sourceSlot target targetSlot =>
    obtain ⟨-, -, rfl⟩ := connect_eq_ok h
    rw [indices_modifyNode (by intro n; rfl), indices_modifyNode (by intro n; rfl)]
  | addChoice branch =>
    obtain ⟨inPins, outPins, -, rfl⟩ := addChoice_eq_ok.mp h
    exact indices_modifyNode fun _ => rfl
  | removeChoice branch =>
    obtain ⟨inPins, outPins, -, -, -, -, rfl⟩ := removeChoice_eq_ok.mp h
    exact indices_withoutChoice inPins outPins

theorem indices_edited (d : Document) (edits : List Edit) :
    (d.edited edits).indices = d.indices := by
  induction edits generalizing d with
  | nil => rfl
  | cons e rest ih =>
    rw [edited, ih]
    cases h : e.run d with
    | ok d' => exact indices_run h
    | error _ => rfl

end Document

/-! ## Building -/

namespace Builder

/-- A call of a builder. The nodes of each kind are added by their content. -/
inductive Call where
  | defaultStart (id : Int32)
  | declare (v : Variable)
  | add (content : Content)
  | branch
  | connect (source sourceSlot target targetSlot : Nat)
  | chain (source target : Nat)
  | addChoice (node : Nat)

/-- What a builder is after a call. -/
def Call.run (b : Builder) : Call → Builder
  | defaultStart id => b.defaultStart id
  | declare v => b.declare v
  | add content => b.add content
  | branch => b.branch
  | connect source sourceSlot target targetSlot => b.connect source sourceSlot target targetSlot
  | chain source target => b.chain source target
  | addChoice node => b.addChoice node

/-- What a builder is after some calls. -/
def after (b : Builder) : List Call → Builder
  | [] => b
  | call :: rest => (call.run b).after rest

theorem build_eq_ok {b : Builder} {d : Document} :
    b.build = .ok d ↔ b.failure = none ∧ b.document = d := by
  unfold build
  cases b.failure with
  | none => simp
  | some e => simp

variable {b : Builder}

/-- A new node has no links, and those of the nodes before it stay. -/
theorem links_add (content : Content) (outbound : Bool) (i : Nat) :
    (b.add content).document.links outbound i = b.document.links outbound i := by
  have hnodes : (b.add content).document.nodes =
      b.document.nodes ++ [{ index := b.next, content := content }] := rfl
  rw [Document.links, Document.links, Document.node?, Document.node?, hnodes]
  rcases Nat.lt_trichotomy i b.document.nodes.length with hlt | rfl | hgt
  · rw [List.getElem?_append_left hlt]
  · rw [List.getElem?_concat_length, List.getElem?_eq_none (Nat.le_refl _)]
    cases outbound <;> rfl
  · rw [List.getElem?_eq_none (Nat.le_of_lt hgt), List.getElem?_eq_none]
    rw [List.length_append]
    exact hgt

/-- A new node declares its position. -/
theorem indices_add (content : Content) :
    (b.add content).document.indices = b.document.indices ++ [b.next] := by
  simp [add, Document.indices]

/-- An edit that fails leaves the document alone. -/
theorem document_edit (f : Document → Except EditError Document) :
    (b.edit f).document = b.document ∨ f b.document = .ok (b.edit f).document := by
  unfold edit
  split
  next d hd => exact .inr hd
  next => exact .inl rfl

end Builder

end DialogueTree
