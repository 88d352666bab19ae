import Mathlib.Data.List.Forall2
import Mathlib.Data.List.Sort
import DialogueTree.Document.Check

/-!
# Documents with rearranged links

A link list says for each slot which links are on it, and links on different slots may change
places: whoever follows a link asks for the first one on a slot, for the only one, or for all of
them ordered by slot. The exits of a line or an end are the exception. There the first one in the
list counts, so they stay as they are.

Results:
* `Link.Rearranged.eq_of_pairwise`, `Link.rearranged_mergeSort`: there is one arrangement by slot.
* `Node.Rearranged.inputAt?_eq`, `Node.Rearranged.onlyOutput?_eq`: the ways from a node.
* `Document.Rearranged.issues_perm`: the issues of a document.
-/

namespace DialogueTree

/-! ## Links -/

namespace Link

/-- Whether two lists have the same links on each slot, in the same order. -/
def Rearranged (links links' : List Link) : Prop :=
  ∀ slot, links.filter (·.slot == slot) = links'.filter (·.slot == slot)

variable {links links' : List Link}

namespace Rearranged

theorem refl (links : List Link) : Rearranged links links := fun _ => rfl

theorem trans {more : List Link} (h : Rearranged links links') (h' : Rearranged links' more) :
    Rearranged links more := fun slot => (h slot).trans (h' slot)

theorem cons (h : Rearranged links links') (link : Link) :
    Rearranged (link :: links) (link :: links') := by
  intro slot
  rw [List.filter_cons, List.filter_cons, h slot]

/-- Links on different slots may change places. -/
theorem swap {a b : Link} (h : a.slot ≠ b.slot) (links : List Link) :
    Rearranged (a :: b :: links) (b :: a :: links) := by
  intro slot
  by_cases ha : a.slot = slot
  · have hb : b.slot ≠ slot := fun hb => h (ha.trans hb.symm)
    simp [ha, hb]
  · simp [List.filter_cons, ha]

theorem perm (h : Rearranged links links') : links.Perm links' := by
  rw [List.perm_iff_count]
  intro link
  have hcount (l : List Link) : l.count link = (l.filter (·.slot == link.slot)).count link :=
    (List.count_filter (by simp)).symm
  rw [hcount links, hcount links', h link.slot]

theorem eq_nil_iff (h : Rearranged links links') : links = [] ↔ links' = [] := by
  rw [← List.length_eq_zero_iff, ← List.length_eq_zero_iff, h.perm.length_eq]

theorem linkedAt?_eq (h : Rearranged links links') (slot : Nat) :
    Node.linkedAt? links slot = Node.linkedAt? links' slot := by
  rw [Node.linkedAt?, Node.linkedAt?, ← List.head?_filter, ← List.head?_filter, h slot]

/-- What is left of rearranged lists on some of the slots, is rearranged. -/
theorem filter (h : Rearranged links links') (p : Nat → Bool) :
    Rearranged (links.filter fun l => p l.slot) (links'.filter fun l => p l.slot) := by
  intro slot
  have hcomm (l : List Link) : (l.filter fun l => p l.slot).filter (·.slot == slot) =
      (l.filter (·.slot == slot)).filter fun l => p l.slot := by
    simp only [List.filter_filter, Bool.and_comm]
  rw [hcomm, hcomm, h slot]

/-- Lists that are ordered by slot are rearranged only if they are equal. -/
theorem eq_of_pairwise (h : Rearranged links links')
    (hsorted : links.Pairwise (·.slot ≤ ·.slot)) (hsorted' : links'.Pairwise (·.slot ≤ ·.slot)) :
    links = links' := by
  induction links generalizing links' with
  | nil => exact (h.eq_nil_iff.mp rfl).symm
  | cons a links ih =>
    cases links' with
    | nil => exact absurd (h.eq_nil_iff.mpr rfl) (List.cons_ne_nil a links)
    | cons b links' =>
      obtain ⟨hfirst, hrest⟩ := List.pairwise_cons.mp hsorted
      obtain ⟨hfirst', hrest'⟩ := List.pairwise_cons.mp hsorted'
      -- Both lists start with the first link on their lowest slot.
      have hab : a.slot ≤ b.slot := by
        rcases List.mem_cons.mp (h.perm.mem_iff.mpr List.mem_cons_self) with rfl | hb
        · exact Nat.le_refl _
        · exact hfirst b hb
      have hba : b.slot ≤ a.slot := by
        rcases List.mem_cons.mp (h.perm.mem_iff.mp List.mem_cons_self) with rfl | ha
        · exact Nat.le_refl _
        · exact hfirst' a ha
      have hslot : a.slot = b.slot := Nat.le_antisymm hab hba
      have hhead := h a.slot
      simp only [List.filter_cons, hslot, beq_self_eq_true, if_true, List.cons.injEq] at hhead
      obtain ⟨rfl, -⟩ := hhead
      refine congrArg (a :: ·) (ih (fun slot => ?_) hrest hrest')
      have htail := h slot
      by_cases ha : a.slot = slot <;> simpa [List.filter_cons, ha] using htail

end Rearranged

/-- Ordering links by slot keeps the order of those on one slot. -/
theorem rearranged_mergeSort (links : List Link) :
    Rearranged (links.mergeSort fun a b => a.slot ≤ b.slot) links := by
  intro slot
  have hsame : (links.filter (·.slot == slot)).Pairwise fun a b => (a.slot ≤ b.slot) = true := by
    refine List.pairwise_of_forall_mem_list fun a ha b hb => ?_
    obtain ⟨-, ha⟩ := List.mem_filter.mp ha
    obtain ⟨-, hb⟩ := List.mem_filter.mp hb
    simp [eq_of_beq ha, eq_of_beq hb]
  have hsub : (links.filter (·.slot == slot)).Sublist
      (links.mergeSort fun a b => a.slot ≤ b.slot) :=
    List.sublist_mergeSort (by grind) (by grind) (by simpa using hsame) List.filter_sublist
  have hkept := hsub.filter (·.slot == slot)
  simp only [List.filter_filter, Bool.and_self] at hkept
  exact (hkept.eq_of_length ((List.mergeSort_perm ..).filter _).length_eq.symm).symm

theorem pairwise_mergeSort (links : List Link) :
    (links.mergeSort fun a b => a.slot ≤ b.slot).Pairwise (·.slot ≤ ·.slot) :=
  (List.pairwise_mergeSort (by grind) (by grind) links).imp of_decide_eq_true

theorem Rearranged.mergeSort_eq (h : Rearranged links links') :
    (links.mergeSort fun a b => a.slot ≤ b.slot) =
      links'.mergeSort fun a b => a.slot ≤ b.slot := by
  refine Rearranged.eq_of_pairwise (fun slot => ?_) (pairwise_mergeSort links)
    (pairwise_mergeSort links')
  rw [rearranged_mergeSort links slot, rearranged_mergeSort links' slot, h slot]

end Link

/-! ## Nodes -/

namespace Node

/-- Whether two nodes differ only in the arrangement of their links. The exits of lines and ends are
taken as they come. -/
structure Rearranged (n n' : Node) : Prop where
  index : n.index = n'.index
  content : n.content = n'.content
  inputs : Link.Rearranged n.inputs n'.inputs
  outputs : Link.Rearranged n.outputs n'.outputs
  kept : n.type = .dialogue ∨ n.type = .finish → n.outputs = n'.outputs

theorem Rearranged.refl (n : Node) : n.Rearranged n :=
  ⟨rfl, rfl, .refl _, .refl _, fun _ => rfl⟩

variable {n n' : Node}

namespace Rearranged

theorem type_eq (h : n.Rearranged n') : n.type = n'.type := congrArg Content.type h.content

theorem inputAt?_eq (h : n.Rearranged n') (slot : Nat) : n.inputAt? slot = n'.inputAt? slot :=
  h.inputs.linkedAt?_eq slot

theorem outputAt?_eq (h : n.Rearranged n') (slot : Nat) : n.outputAt? slot = n'.outputAt? slot :=
  h.outputs.linkedAt?_eq slot

theorem onlyOutput?_eq (h : n.Rearranged n') : n.onlyOutput? = n'.onlyOutput? := by
  have hperm := h.outputs.perm
  unfold onlyOutput?
  cases hout : n.outputs with
  | nil => rw [h.outputs.eq_nil_iff.mp hout]
  | cons link rest =>
    cases rest with
    | nil => rw [List.singleton_perm.mp (hout ▸ hperm)]
    | cons second rest =>
      rw [hout] at hperm
      cases hout' : n'.outputs with
      | nil => simp [hout'] at hperm
      | cons link' rest' =>
        cases rest' with
        | nil => simp [hout'] at hperm
        | cons => rfl

theorem isBranch_eq (h : n.Rearranged n') : n.isBranch = n'.isBranch := by
  rw [isBranch, isBranch, h.type_eq]

end Rearranged

end Node

/-! ## Documents -/

namespace Document

/-- Whether two documents differ only in the arrangement of links. -/
structure Rearranged (d d' : Document) : Prop where
  name : d.name = d'.name
  defaultStart : d.defaultStart = d'.defaultStart
  declared : d.declared = d'.declared
  nodes : List.Forall₂ Node.Rearranged d.nodes d'.nodes

variable {d d' : Document}

namespace Rearranged

theorem length_eq (h : d.Rearranged d') : d.nodes.length = d'.nodes.length := h.nodes.length_eq

/-- At each position both documents have a node or none has. -/
theorem node?_cases (h : d.Rearranged d') (i : Nat) :
    d.node? i = none ∧ d'.node? i = none ∨
    ∃ n n', d.node? i = some n ∧ d'.node? i = some n' ∧ n.Rearranged n' := by
  have hlength := h.length_eq
  by_cases hi : i < d.nodes.length
  · exact .inr ⟨_, _, List.getElem?_eq_getElem hi, List.getElem?_eq_getElem (hlength ▸ hi),
      h.nodes.get hi (hlength ▸ hi)⟩
  · rw [Nat.not_lt] at hi
    exact .inl ⟨List.getElem?_eq_none hi, List.getElem?_eq_none (hlength ▸ hi)⟩

theorem contents_eq (h : d.Rearranged d') : d.nodes.map (·.content) = d'.nodes.map (·.content) := by
  have hnodes := h.nodes
  generalize d.nodes = ns, d'.nodes = ns' at hnodes ⊢
  induction hnodes with
  | nil => rfl
  | cons hn _ ih => rw [List.map_cons, List.map_cons, hn.content, ih]

theorem nodeType?_eq (h : d.Rearranged d') (i : Nat) : d.nodeType? i = d'.nodeType? i := by
  rcases h.node?_cases i with ⟨hn, hn'⟩ | ⟨n, n', hn, hn', hr⟩
  · rw [nodeType?, nodeType?, hn, hn']
  · rw [nodeType?, nodeType?, hn, hn', Option.map_some, Option.map_some, hr.type_eq]

theorem isBranch_eq (h : d.Rearranged d') (i : Nat) : d.isBranch i = d'.isBranch i := by
  rw [isBranch, isBranch, h.nodeType?_eq i]

theorem lineText_eq (h : d.Rearranged d') (i : Nat) : d.lineText i = d'.lineText i := by
  rcases h.node?_cases i with ⟨hn, hn'⟩ | ⟨⟨_, c, _, _⟩, ⟨_, c', _, _⟩, hn, hn', hr⟩
  · rw [lineText, lineText, hn, hn']
  · obtain rfl : c = c' := hr.content
    rw [lineText, lineText, hn, hn']
    cases c <;> rfl

theorem findIdx?_eq (h : d.Rearranged d') (p : Content → Bool) :
    d.nodes.findIdx? (p ·.content) = d'.nodes.findIdx? (p ·.content) := by
  have hcontents := congrArg (List.findIdx? p) h.contents_eq
  rwa [List.findIdx?_map, List.findIdx?_map] at hcontents

theorem findStart?_eq (h : d.Rearranged d') (id : Int32) : d.findStart? id = d'.findStart? id :=
  h.findIdx?_eq (· == .start id)

theorem teleportOut?_eq (h : d.Rearranged d') (id : Int32) :
    d.teleportOut? id = d'.teleportOut? id :=
  h.findIdx?_eq (· == .teleport false id)

theorem count_eq (h : d.Rearranged d') (t : NodeType) : d.count t = d'.count t := by
  have hcontents := congrArg (List.countP (·.type == t)) h.contents_eq
  rwa [List.countP_map, List.countP_map] at hcontents

theorem defaultSpeaker_eq (h : d.Rearranged d') : d.defaultSpeaker = d'.defaultSpeaker := by
  have hinfo : d.info?.map (·.content) = d'.info?.map (·.content) := by
    have hcontents := congrArg (List.find? (·.type == .info)) h.contents_eq
    rwa [List.find?_map, List.find?_map] at hcontents
  unfold defaultSpeaker
  rcases hn : d.info? with _ | ⟨index, c, inputs, outputs⟩
  · rw [hn, Option.map_none] at hinfo
    rw [Option.map_eq_none_iff.mp hinfo.symm]
  · rw [hn, Option.map_some] at hinfo
    obtain ⟨⟨index', c', inputs', outputs'⟩, hn', rfl : c' = c⟩ :=
      Option.map_eq_some_iff.mp hinfo.symm
    rw [hn']
    cases c' <;> rfl

/-! ## Issues -/

theorem sideIssues_eq (h : d.Rearranged d') {n n' : Node} (hn : n.Rearranged n') (i : Nat) :
    d.sideIssues i n = d'.sideIssues i n' := by
  have hin := hn.inputs.eq_nil_iff
  have hout := hn.outputs.eq_nil_iff
  have htype := hn.type_eq
  unfold sideIssues
  rw [hn.content]
  cases n'.content with
  | start => simp only [ne_eq, hin]
  | teleport isIn id => cases isIn <;> simp only [ne_eq, hin, hout, h.teleportOut?_eq id]
  | logic | edit => simp only [hn.outputAt?_eq, htype]
  | _ => rfl

theorem linkIssues_perm (h : d.Rearranged d') {links links' : List Link}
    (hlinks : Link.Rearranged links links') (i : Nat) (outbound : Bool) :
    (d.linkIssues i outbound links).Perm (d'.linkIssues i outbound links') := by
  have hsame : d.linkIssues i outbound links = d'.linkIssues i outbound links := by
    unfold linkIssues
    congr 1
    funext link
    rcases h.node?_cases link.node with ⟨hn, hn'⟩ | ⟨n, n', hn, hn', hr⟩
    · rw [hn, hn']
    · have hany : (if outbound then n.inputs else n.outputs).any (·.node == i) =
          (if outbound then n'.inputs else n'.outputs).any (·.node == i) := by
        cases outbound with
        | true => exact hr.inputs.perm.any_eq
        | false => exact hr.outputs.perm.any_eq
      rw [hn, hn']
      dsimp only
      rw [hany]
  rw [hsame]
  exact hlinks.perm.flatMap_right _

theorem nodeIssues_perm (h : d.Rearranged d') {n n' : Node} (hn : n.Rearranged n') (i : Nat) :
    (d.nodeIssues i n).Perm (d'.nodeIssues i n') := by
  have hindex : indexIssues i n = indexIssues i n' := by rw [indexIssues, indexIssues, hn.index]
  have hpassive : passiveIssues i n = passiveIssues i n' := by
    simp only [passiveIssues, hn.type_eq, hn.inputs.eq_nil_iff, hn.outputs.eq_nil_iff]
  have hpins : pinIssues i n = pinIssues i n' := by rw [pinIssues, pinIssues, hn.content]
  rw [nodeIssues, nodeIssues, hindex, hpassive, hpins, h.sideIssues_eq hn]
  exact ((List.Perm.refl _).append (h.linkIssues_perm hn.outputs i true)).append
    (h.linkIssues_perm hn.inputs i false)

/-- Rearranged documents have the same issues, perhaps in another order. -/
theorem issues_perm (h : d.Rearranged d') : d.issues.Perm d'.issues := by
  have htree : d.treeIssues = d'.treeIssues := by
    simp only [treeIssues, h.count_eq, h.name]
  have hnodes (k : Nat) {ns ns' : List Node} (hns : List.Forall₂ Node.Rearranged ns ns') :
      ((ns.zipIdx k).flatMap fun p => d.nodeIssues p.2 p.1).Perm
        ((ns'.zipIdx k).flatMap fun p => d'.nodeIssues p.2 p.1) := by
    induction hns generalizing k with
    | nil => exact .nil
    | cons hn _ ih =>
      rw [List.zipIdx_cons, List.zipIdx_cons, List.flatMap_cons, List.flatMap_cons]
      exact (h.nodeIssues_perm hn k).append (ih (k + 1))
  rw [issues, issues, htree]
  exact (List.Perm.refl _).append (hnodes 0 h.nodes)

end Rearranged

end Document

end DialogueTree
