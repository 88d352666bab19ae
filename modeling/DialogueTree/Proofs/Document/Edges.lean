import DialogueTree.Document.Basic

/-!
# Edges of a document

A link that a search over slots or kinds of node comes up with is one of the links or nodes of the
document.

Results:
* `leads_of_outputAt?`, `leads_of_onlyOutput?`: an exit of a node is an edge.
* `node?_of_teleportOut?`, `node?_of_findStart?`: what is found is of the kind looked for.
-/

namespace DialogueTree

theorem Node.exists_of_linkedAt? {links : List Link} {slot next : Nat}
    (h : Node.linkedAt? links slot = some next) :
    ∃ link ∈ links, link.slot = slot ∧ link.node = next := by
  obtain ⟨link, hfind, rfl⟩ := Option.map_eq_some_iff.mp h
  exact ⟨link, List.mem_of_find?_eq_some hfind, by simpa using List.find?_some hfind, rfl⟩

theorem Node.exists_of_onlyOutput? {n : Node} {next : Nat} (h : n.onlyOutput? = some next) :
    ∃ link, n.outputs = [link] ∧ link.node = next := by
  unfold Node.onlyOutput? at h
  split at h
  next link hl => exact ⟨link, hl, Option.some.inj h⟩
  next => cases h

namespace Document

/-- Whether an edge leads from the node at a position to another position. -/
def Leads (d : Document) (source target : Nat) : Prop :=
  ∃ n, d.node? source = some n ∧ ∃ link ∈ n.outputs, link.node = target

theorem leads_of_outputAt? {d : Document} {i slot next : Nat} {n : Node}
    (hn : d.node? i = some n) (h : n.outputAt? slot = some next) : d.Leads i next := by
  obtain ⟨link, hl, -, rfl⟩ := Node.exists_of_linkedAt? h
  exact ⟨n, hn, link, hl, rfl⟩

theorem leads_of_onlyOutput? {d : Document} {i next : Nat} {n : Node}
    (hn : d.node? i = some n) (h : n.onlyOutput? = some next) : d.Leads i next := by
  obtain ⟨link, hl, rfl⟩ := Node.exists_of_onlyOutput? h
  exact ⟨n, hn, link, by simp [hl], rfl⟩

theorem nodeType?_eq_some {d : Document} {i : Nat} {type : NodeType} :
    d.nodeType? i = some type ↔ ∃ n, d.node? i = some n ∧ n.type = type := by
  simp [nodeType?, Option.map_eq_some_iff]

theorem isBranch_iff {d : Document} {i : Nat} :
    d.isBranch i = true ↔ d.nodeType? i = some .branch :=
  beq_iff_eq

theorem node?_of_findIdx? {d : Document} {content : Content} {i : Nat}
    (h : d.nodes.findIdx? (fun n => n.content == content) = some i) :
    ∃ n, d.node? i = some n ∧ n.content = content := by
  obtain ⟨hlt, hc, -⟩ := List.findIdx?_eq_some_iff_getElem.mp h
  exact ⟨d.nodes[i], List.getElem?_eq_getElem hlt, by simpa using hc⟩

theorem node?_of_teleportOut? {d : Document} {id : Int32} {i : Nat}
    (h : d.teleportOut? id = some i) : ∃ n, d.node? i = some n ∧ n.content = .teleport false id :=
  node?_of_findIdx? h

theorem node?_of_findStart? {d : Document} {id : Int32} {i : Nat}
    (h : d.findStart? id = some i) : ∃ n, d.node? i = some n ∧ n.content = .start id :=
  node?_of_findIdx? h

end Document

end DialogueTree
