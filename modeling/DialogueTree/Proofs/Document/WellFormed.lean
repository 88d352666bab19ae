import DialogueTree.Document.Check
import DialogueTree.Proofs.Document.Edges

/-!
# Well-formed documents

What it means for the nodes of a document that it has no issues. The last two rules together keep
walks away from nodes without entries: an edge that is listed at one end is listed at the other.

Results:
* `Document.wellFormed_of_issues`: a document without issues is well formed.
* `Document.WellFormed.exists_input`: where an edge leads there is a node with an entry for it.
-/

namespace DialogueTree.Document

/-- The rules for the nodes of a document, as far as walks depend on them. -/
structure WellFormed (d : Document) : Prop where
  index {i : Nat} {n : Node} : d.node? i = some n → n.index = i
  passive {i : Nat} {n : Node} : d.node? i = some n → n.type = .info ∨ n.type = .comment →
    n.inputs = [] ∧ n.outputs = []
  start {i : Nat} {n : Node} {id : Int32} : d.node? i = some n → n.content = .start id →
    n.inputs = []
  teleportOut {i : Nat} {n : Node} {id : Int32} : d.node? i = some n →
    n.content = .teleport false id → n.inputs = []
  exits {i : Nat} {n : Node} : d.node? i = some n → n.type = .logic ∨ n.type = .edit →
    n.outputAt? 0 ≠ none ∧ n.outputAt? 1 ≠ none
  mirrored {i : Nat} {n : Node} : d.node? i = some n → ∀ link ∈ n.outputs,
    ∃ m, d.node? link.node = some m ∧ ∃ back ∈ m.inputs, back.node = i
  sourced {i : Nat} {n : Node} : d.node? i = some n → ∀ link ∈ n.inputs,
    ∃ m, d.node? link.node = some m ∧ ∃ back ∈ m.outputs, back.node = i

variable {d : Document} {i : Nat} {n : Node}

theorem nodeIssues_eq_nil (h : d.issues = []) (hn : d.node? i = some n) :
    d.nodeIssues i n = [] := by
  have hall := List.flatMap_eq_nil_iff.mp (List.append_eq_nil_iff.mp h).2
  exact hall (n, i) (List.mem_zipIdx_iff_getElem?.mpr hn)

/-- A node without issues passes each of the checks. -/
theorem checks_eq_nil (h : d.nodeIssues i n = []) :
    indexIssues i n = [] ∧ passiveIssues i n = [] ∧ pinIssues i n = [] ∧ d.sideIssues i n = [] ∧
      d.linkIssues i true n.outputs = [] ∧ d.linkIssues i false n.inputs = [] := by
  simpa [nodeIssues, and_assoc] using h

theorem index_eq (h : indexIssues i n = []) : n.index = i := by
  unfold indexIssues at h
  split at h
  · cases h
  next hi => exact Decidable.not_not.mp hi

theorem links_eq_nil_of_passive (h : passiveIssues i n = [])
    (hpassive : n.type = .info ∨ n.type = .comment) : n.inputs = [] ∧ n.outputs = [] := by
  unfold passiveIssues at h
  split at h
  · cases h
  next hlinks => exact Decidable.not_not.mp fun hne => hlinks ⟨hpassive, hne⟩

theorem inputs_eq_nil_of_start {id : Int32} (h : d.sideIssues i n = [])
    (hc : n.content = .start id) : n.inputs = [] := by
  simpa [sideIssues, hc] using h

theorem inputs_eq_nil_of_teleportOut {id : Int32} (h : d.sideIssues i n = [])
    (hc : n.content = .teleport false id) : n.inputs = [] := by
  simp only [sideIssues, hc, List.append_eq_nil_iff] at h
  simpa using h.1

theorem exits_ne_none (h : d.sideIssues i n = []) (htype : n.type = .logic ∨ n.type = .edit) :
    n.outputAt? 0 ≠ none ∧ n.outputAt? 1 ≠ none := by
  cases hc : n.content with
  | logic | edit => simpa [sideIssues, hc] using h
  | _ => simp [Node.type, hc, Content.type] at htype

/-- Every link of a checked side leads to a node that lists this one on its other side. -/
theorem exists_back {outbound : Bool} {links : List Link}
    (h : d.linkIssues i outbound links = []) {link : Link} (hlink : link ∈ links) :
    ∃ m, d.node? link.node = some m ∧
      ∃ back ∈ if outbound then m.inputs else m.outputs, back.node = i := by
  have hnil := List.flatMap_eq_nil_iff.mp h link hlink
  split at hnil
  · cases hnil
  next m hm =>
    by_cases hback : (if outbound then m.inputs else m.outputs).any (·.node == i) = true
    · obtain ⟨back, hmem, hnode⟩ := List.any_eq_true.mp hback
      exact ⟨m, hm, back, hmem, by simpa using hnode⟩
    · rw [if_neg hback] at hnil
      cases hnil

/-- A document without issues is well formed. -/
theorem wellFormed_of_issues (h : d.issues = []) : d.WellFormed := by
  have hchecks {i : Nat} {n : Node} (hn : d.node? i = some n) :=
    checks_eq_nil (nodeIssues_eq_nil h hn)
  exact
    { index := fun hn => index_eq (hchecks hn).1
      passive := fun hn => links_eq_nil_of_passive (hchecks hn).2.1
      start := fun hn => inputs_eq_nil_of_start (hchecks hn).2.2.2.1
      teleportOut := fun hn => inputs_eq_nil_of_teleportOut (hchecks hn).2.2.2.1
      exits := fun hn => exits_ne_none (hchecks hn).2.2.2.1
      mirrored := fun hn _ hlink => exists_back (hchecks hn).2.2.2.2.1 hlink
      sourced := fun hn _ hlink => exists_back (hchecks hn).2.2.2.2.2 hlink }

/-- A node that an edge leads to is listed as such. -/
theorem WellFormed.exists_input (h : d.WellFormed) {source : Nat} (hleads : d.Leads source i) :
    ∃ n, d.node? i = some n ∧ n.inputs ≠ [] := by
  obtain ⟨m, hm, link, hlink, rfl⟩ := hleads
  obtain ⟨n, hn, back, hback, -⟩ := h.mirrored hm link hlink
  exact ⟨n, hn, List.ne_nil_of_mem hback⟩

end DialogueTree.Document
