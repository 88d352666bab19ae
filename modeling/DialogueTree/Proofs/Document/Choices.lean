import Mathlib.Data.List.Zip
import DialogueTree.Proofs.Document.Mirror

/-!
# Taking a choice from a question

An edge has an end in the list of either node, and the n-th link to a node is the other end of the
n-th link that this node has back. So the far ends of the edges on a slot can be told by walking
along both lists at once. Taking them out by rank leaves the same list, since ranks that fall are
positions in the list as it was at first.

Results:
* `Document.dropRanks_ranks`: the far ends that stay, and their order.
* `Document.withoutChoice_eq`: a document after a choice has been taken from a question.
* `Document.removeChoice_exact`: a question that is not linked to itself loses a choice with its
  edges, and nothing else changes.
-/

namespace DialogueTree.Document

/-! ## Far ends -/

/-- The links that stay at the far ends of the edges of `owner` when those on a slot are taken out.
The n-th link to `owner` is the other end of the n-th link in `mates`. -/
def farEnds (owner slot : Nat) : List Link → List Link → List Link
  | [], _ => []
  | link :: far, mates =>
    if link.node = owner then
      match mates with
      | [] => link :: farEnds owner slot far []
      | mate :: mates =>
        if mate.slot = slot then farEnds owner slot far mates
        else link :: farEnds owner slot far mates
    else link :: farEnds owner slot far mates

section

variable {owner slot : Nat} {link : Link}

theorem farEnds_cons_of_ne (h : link.node ≠ owner) (far mates : List Link) :
    farEnds owner slot (link :: far) mates = link :: farEnds owner slot far mates := by
  cases mates <;> simp [farEnds, h]

theorem farEnds_cons_nil (h : link.node = owner) (far : List Link) :
    farEnds owner slot (link :: far) [] = link :: farEnds owner slot far [] := by
  rw [farEnds, if_pos h]

theorem farEnds_cons_cons (h : link.node = owner) (far : List Link) (mate : Link)
    (mates : List Link) :
    farEnds owner slot (link :: far) (mate :: mates) =
      if mate.slot = slot then farEnds owner slot far mates
      else link :: farEnds owner slot far mates := by
  rw [farEnds, if_pos h]

theorem farEnds_eq_self {far mates : List Link} (h : linksTo owner far = [] ∨ mates = []) :
    farEnds owner slot far mates = far := by
  induction far with
  | nil => rfl
  | cons link far ih =>
    by_cases hnode : link.node = owner
    · rw [linksTo_cons_self hnode] at h
      obtain rfl : mates = [] := h.resolve_left (List.cons_ne_nil _ _)
      rw [farEnds_cons_nil hnode, ih (.inr rfl)]
    · rw [linksTo_cons_of_ne hnode] at h
      rw [farEnds_cons_of_ne hnode, ih h]

end

/-- The links to the other end of an edge are those whose mates stay. -/
theorem linksTo_farEnds (owner slot : Nat) {far mates : List Link}
    (h : (linksTo owner far).length = mates.length) :
    linksTo owner (farEnds owner slot far mates) =
      (((linksTo owner far).zip mates).filter (·.2.slot != slot)).map (·.1) := by
  induction far generalizing mates with
  | nil => rfl
  | cons link far ih =>
    by_cases hnode : link.node = owner
    · rw [linksTo_cons_self hnode] at h ⊢
      cases mates with
      | nil => cases h
      | cons mate mates =>
        have hrest := ih (Nat.succ.inj h)
        rw [farEnds_cons_cons hnode]
        by_cases hslot : mate.slot = slot
        · simp [hslot, hrest]
        · simp [hslot, hrest, linksTo_cons_self hnode]
    · rw [linksTo_cons_of_ne hnode] at h ⊢
      rw [farEnds_cons_of_ne hnode, linksTo_cons_of_ne hnode, ih h]

/-! ## Taking them out by rank -/

/-- The positions of the links on a slot, in rising order. -/
def positions (slot : Nat) (links : List Link) : List Nat :=
  (links.zipIdx.filter (·.1.slot == slot)).map (·.2)

theorem positions_cons (slot : Nat) (link : Link) (links : List Link) :
    positions slot (link :: links) =
      (if link.slot = slot then [0] else []) ++ (positions slot links).map (· + 1) := by
  have hrest : ((links.zipIdx 1).filter (·.1.slot == slot)).map (·.2) =
      (positions slot links).map (· + 1) := by
    rw [List.zipIdx_succ, List.filter_map, List.map_map, positions, List.map_map]
    rfl
  rw [positions, List.zipIdx_cons, List.filter_cons, Nat.zero_add]
  by_cases h : link.slot = slot
  · simp [h, hrest]
  · simp [h, hrest]

/-- The ranks of the links to a node on a slot fall from the last of them to the first one. -/
theorem ranks_eq_reverse (links : List Link) (slot node : Nat) :
    ranks links slot node = (positions slot (linksTo node links)).reverse := by
  have hperm : (ranks links slot node).Perm (positions slot (linksTo node links)).reverse :=
    (ranks_perm links slot node).trans (List.reverse_perm _).symm
  have hrising : (positions slot (linksTo node links)).Pairwise (· < ·) :=
    ranksFound_rising links slot node
  refine hperm.eq_of_pairwise ?_ (ranks_falling links slot node) (List.pairwise_reverse.mpr hrising)
  intro a b _ _ hab hba
  omega

section

variable {node : Nat} {link : Link} (ranks : List Nat) (links : List Link)

theorem foldr_dropOccurrence_nil : ranks.foldr (dropOccurrence node) [] = [] := by
  induction ranks with
  | nil => rfl
  | cons rank ranks ih =>
    rw [List.foldr_cons, ih]
    cases rank <;> rfl

theorem foldr_dropOccurrence_of_ne (h : link.node ≠ node) :
    ranks.foldr (dropOccurrence node) (link :: links) =
      link :: ranks.foldr (dropOccurrence node) links := by
  induction ranks with
  | nil => rfl
  | cons rank ranks ih => rw [List.foldr_cons, ih, dropOccurrence_cons_of_ne _ _ h, List.foldr_cons]

theorem foldr_dropOccurrence_succ (h : link.node = node) :
    (ranks.map (· + 1)).foldr (dropOccurrence node) (link :: links) =
      link :: ranks.foldr (dropOccurrence node) links := by
  induction ranks with
  | nil => rfl
  | cons rank ranks ih =>
    rw [List.map_cons, List.foldr_cons, ih, dropOccurrence_cons_succ _ _ h, List.foldr_cons]

end

/-- Where the last one goes first, the links at the positions of the mates on a slot are the far
ends that do not stay. -/
theorem foldr_dropOccurrence_positions (owner slot : Nat) (far mates : List Link) :
    (positions slot mates).foldr (dropOccurrence owner) far = farEnds owner slot far mates := by
  induction far generalizing mates with
  | nil => exact foldr_dropOccurrence_nil _
  | cons link far ih =>
    by_cases hnode : link.node = owner
    · cases mates with
      | nil =>
        rw [farEnds_cons_nil hnode, ← ih]
        rfl
      | cons mate mates =>
        rw [farEnds_cons_cons hnode, positions_cons, List.foldr_append,
          foldr_dropOccurrence_succ _ _ hnode, ih]
        by_cases hslot : mate.slot = slot
        · rw [if_pos hslot, if_pos hslot]
          exact dropOccurrence_cons_zero _ hnode
        · rw [if_neg hslot, if_neg hslot]
          rfl
    · rw [farEnds_cons_of_ne hnode, foldr_dropOccurrence_of_ne _ _ hnode, ih]

/-- What is left at the far ends of the links to a node on a slot when they are taken out by
rank. -/
theorem dropRanks_ranks (owner slot node : Nat) (links far : List Link) :
    dropRanks owner (ranks links slot node) far = farEnds owner slot far (linksTo node links) := by
  rw [ranks_eq_reverse, dropRanks, List.foldl_reverse]
  exact foldr_dropOccurrence_positions owner slot far _

/-! ## The whole document -/

section

variable {d : Document} {edges : List Occurrence} {f : Occurrence → Node → Node}

/-- Each node takes the changes that are meant for it, one after another. -/
theorem node?_foldl_modifyNode (i : Nat) :
    (edges.foldl (fun d e => d.modifyNode e.node (f e)) d).node? i =
      (d.node? i).map fun n => (edges.filter (·.node == i)).foldl (fun n e => f e n) n := by
  induction edges generalizing d with
  | nil => exact Option.map_id'.symm
  | cons e edges ih =>
    rw [List.foldl_cons, ih, node?_modifyNode, Option.map_map]
    congr 1
    funext n
    by_cases he : e.node = i
    · simp [he]
    · simp [he]

/-- Changes of nodes change nothing else. -/
theorem exists_foldl_modifyNode_eq (d : Document) (edges : List Occurrence)
    (f : Occurrence → Node → Node) :
    ∃ nodes, edges.foldl (fun d e => d.modifyNode e.node (f e)) d = { d with nodes := nodes } := by
  induction edges generalizing d with
  | nil => exact ⟨d.nodes, rfl⟩
  | cons e edges ih => exact ih (d.modifyNode e.node (f e))

end

variable {d : Document} {branch inPins outPins : Nat}

/-- A node without its part in the last choice of a question: at the question itself the links on
the last slots go, and elsewhere their far ends. -/
def nodeWithoutChoice (d : Document) (branch inPins outPins i : Nat) (n : Node) : Node :=
  if i = branch then
    { n with
      content := .branch (inPins - 1) (outPins - 1)
      inputs := n.inputs.filter (·.slot != inPins - 1)
      outputs := n.outputs.filter (·.slot != outPins - 1) }
  else
    { n with
      inputs := farEnds branch (outPins - 1) n.inputs (d.exits branch i)
      outputs := farEnds branch (inPins - 1) n.outputs (d.entries branch i) }

theorem node?_dropSources (d : Document) (branch : Nat) (edges : List Occurrence) (i : Nat) :
    (d.dropSources branch edges).node? i = (d.node? i).map fun n =>
      { n with outputs :=
          dropRanks branch ((edges.filter (·.node == i)).map (·.earlier)) n.outputs } := by
  rw [dropSources, node?_foldl_modifyNode]
  congr 1
  funext n
  induction edges.filter (·.node == i) generalizing n with
  | nil => rfl
  | cons e edges ih => exact ih _

theorem node?_dropTargets (d : Document) (branch : Nat) (edges : List Occurrence) (i : Nat) :
    (d.dropTargets branch edges).node? i = (d.node? i).map fun n =>
      { n with inputs :=
          dropRanks branch ((edges.filter (·.node == i)).map (·.earlier)) n.inputs } := by
  rw [dropTargets, node?_foldl_modifyNode]
  congr 1
  funext n
  induction edges.filter (·.node == i) generalizing n with
  | nil => rfl
  | cons e edges ih => exact ih _

section

variable (hself : d.exits branch branch = [] ∨ d.entries branch branch = [])
include hself

theorem node?_withoutChoice (i : Nat) :
    (d.withoutChoice branch inPins outPins).node? i =
      (d.node? i).map (d.nodeWithoutChoice branch inPins outPins i) := by
  rw [withoutChoice, node?_modifyNode, node?_dropTargets, node?_dropSources, node?_modifyNode]
  cases hn : d.node? i with
  | none => rfl
  | some n =>
    simp only [Option.map_some, nodeWithoutChoice]
    have hentries := dropRanks_ranks branch (inPins - 1) i (d.links false branch)
    have hexits := dropRanks_ranks branch (outPins - 1) i (d.links true branch)
    rw [ranks] at hentries hexits
    rw [hentries, hexits]
    by_cases hi : branch = i
    · subst hi
      rw [exits, entries] at hself
      have houtputs : linksTo branch (n.outputs.filter (·.slot != outPins - 1)) = [] ∨
          linksTo branch (d.links false branch) = [] := by
        have hlinks : d.links true branch = n.outputs := links_of_node? hn
        rw [hlinks] at hself
        exact hself.imp_left fun h => by rw [linksTo_filter, h, List.filter_nil]
      have hinputs : linksTo branch (n.inputs.filter (·.slot != inPins - 1)) = [] ∨
          linksTo branch (d.links true branch) = [] := by
        have hlinks : d.links false branch = n.inputs := links_of_node? hn
        rw [hlinks] at hself
        exact hself.symm.imp_left fun h => by rw [linksTo_filter, h, List.filter_nil]
      simp only [if_true, farEnds_eq_self houtputs, farEnds_eq_self hinputs]
    · simp only [if_neg hi, if_neg (Ne.symm hi), exits, entries]

/-- A question that is not linked to itself loses a choice: each node is without its part in it, and
all else in the document stays. -/
theorem withoutChoice_eq :
    d.withoutChoice branch inPins outPins =
      { d with nodes := d.nodes.mapIdx (d.nodeWithoutChoice branch inPins outPins) } := by
  have hnodes : (d.withoutChoice branch inPins outPins).nodes =
      d.nodes.mapIdx (d.nodeWithoutChoice branch inPins outPins) := by
    refine List.ext_getElem? fun i => ?_
    rw [List.getElem?_mapIdx]
    exact node?_withoutChoice hself i
  rw [← hnodes, withoutChoice, dropTargets, dropSources]
  obtain ⟨_, hsources⟩ := exists_foldl_modifyNode_eq
    (d.modifyNode branch fun n =>
      { n with
        inputs := n.inputs.filter (·.slot != inPins - 1)
        outputs := n.outputs.filter (·.slot != outPins - 1) })
    (occurrences (d.links false branch) (inPins - 1))
    fun e n => { n with outputs := dropOccurrence branch e.earlier n.outputs }
  rw [hsources]
  obtain ⟨_, htargets⟩ := exists_foldl_modifyNode_eq _
    (occurrences (d.links true branch) (outPins - 1))
    fun e n => { n with inputs := dropOccurrence branch e.earlier n.inputs }
  rw [htargets]
  rfl

end

/-! ## Edges -/

/-- The edges from one node to another, each with its link at either end. -/
def edges (d : Document) (u v : Nat) : List (Link × Link) := (d.exits u v).zip (d.entries v u)

section

variable {near far : List Link}

theorem zip_filter_far (h : near.length = far.length) (p : Link → Bool) :
    (((far.zip near).filter (p ·.2)).map (·.1)).zip (near.filter p) =
      (far.zip near).filter (p ·.2) := by
  have hnear : near.filter p = ((far.zip near).filter (p ·.2)).map (·.2) := by
    have hsnd : (far.zip near).map (·.2) = near := List.map_snd_zip (Nat.le_of_eq h)
    conv_lhs => rw [← hsnd, List.filter_map]
    rfl
  rw [hnear]
  exact (List.zip_of_prod rfl rfl).symm

theorem zip_filter_near (h : near.length = far.length) (p : Link → Bool) :
    (near.filter p).zip (((far.zip near).filter (p ·.2)).map (·.1)) =
      (near.zip far).filter (p ·.1) := by
  rw [← List.zip_swap, zip_filter_far h, ← List.zip_swap far near, List.filter_map]
  rfl

end

section

variable {u v : Nat}

/-- Where the links of a question lead, the far ends of the edges on its last slot go. -/
theorem linksTo_withoutChoice_far {outbound : Bool} (hu : u ≠ branch)
    (hm : (linksTo branch (d.links outbound u)).length =
      (linksTo u (d.links (!outbound) branch)).length) :
    linksTo branch ((d.withoutChoice branch inPins outPins).links outbound u) =
      (((linksTo branch (d.links outbound u)).zip
        (linksTo u (d.links (!outbound) branch))).filter
          (·.2.slot != lastSlot inPins outPins (!outbound))).map (·.1) := by
  rw [links_withoutChoice, if_neg (Ne.symm hu), dropRanks_ranks, linksTo_farEnds _ _ hm]

theorem edges_withoutChoice_to (hu : u ≠ branch) (hm : d.Mirrored u branch) :
    (d.withoutChoice branch inPins outPins).edges u branch =
      (d.edges u branch).filter (·.2.slot != inPins - 1) := by
  rw [edges, exits, entries, linksTo_withoutChoice_far hu hm, linksTo_withoutChoice_near hu]
  exact zip_filter_far hm.symm (·.slot != inPins - 1)

theorem edges_withoutChoice_from (hv : v ≠ branch) (hm : d.Mirrored branch v) :
    (d.withoutChoice branch inPins outPins).edges branch v =
      (d.edges branch v).filter (·.1.slot != outPins - 1) := by
  rw [edges, exits, entries, linksTo_withoutChoice_far hv hm.symm, linksTo_withoutChoice_near hv]
  exact zip_filter_near hm (·.slot != outPins - 1)

/-- The links between other nodes stay. -/
theorem linksTo_withoutChoice_of_ne {outbound : Bool} (hu : u ≠ branch) (hv : v ≠ branch) :
    linksTo v ((d.withoutChoice branch inPins outPins).links outbound u) =
      linksTo v (d.links outbound u) := by
  rw [links_withoutChoice, linksTo_dropRanks_of_ne hv, if_neg (Ne.symm hu)]

end

/-! ## Taking a choice -/

theorem exists_of_mem_occurrences {links : List Link} {slot : Nat} {e : Occurrence}
    (h : e ∈ occurrences links slot) : ∃ link ∈ links, link.node = e.node := by
  have hrank : e.earlier ∈ ranks links slot e.node :=
    List.mem_map_of_mem (List.mem_filter.mpr ⟨h, beq_self_eq_true _⟩)
  obtain ⟨link, hlink, -⟩ := mem_ranks.mp hrank
  obtain ⟨hmem, hnode⟩ := List.mem_filter.mp (List.mem_of_getElem? hlink)
  exact ⟨link, hmem, beq_iff_eq.mp hnode⟩

section

variable {n : Node} (hn : d.node? branch = some n)
  (hends : ∀ link ∈ n.inputs ++ n.outputs, link.node < d.nodes.length)
include hn hends

theorem lt_of_mem_links {outbound : Bool} {link : Link} (h : link ∈ d.links outbound branch) :
    link.node < d.nodes.length := by
  rw [links_of_node? hn] at h
  cases outbound with
  | true => exact hends link (List.mem_append_right _ h)
  | false => exact hends link (List.mem_append_left _ h)

/-- Where no link of a question leads out of the document, the edges that have to be as many at both
ends are those with the nodes that there are. -/
theorem mirrored_of_ends
    (hm : ∀ u < d.nodes.length, u ≠ branch → d.Mirrored u branch ∧ d.Mirrored branch u)
    {u : Nat} (hu : u ≠ branch) : d.Mirrored u branch ∧ d.Mirrored branch u := by
  by_cases hlt : u < d.nodes.length
  · exact hm u hlt hu
  · have hnone : d.node? u = none := List.getElem?_eq_none (Nat.le_of_not_lt hlt)
    have hlinks (outbound : Bool) : linksTo u (d.links outbound branch) = [] := by
      refine List.filter_eq_nil_iff.mpr fun link hlink hnode => hlt ?_
      rw [← beq_iff_eq.mp hnode]
      exact lt_of_mem_links hn hends hlink
    unfold Mirrored exits entries
    rw [links_of_missing hnone, links_of_missing hnone, hlinks, hlinks]
    exact ⟨rfl, rfl⟩

/-- A choice can be taken from a question with more than the fewest pins, if its links lead to nodes
that there are. -/
theorem removeChoice_eq_ok_withoutChoice (hc : n.content = .branch inPins outPins)
    (hin : 3 < inPins) (hout : 2 < outPins) :
    d.removeChoice branch = .ok (d.withoutChoice branch inPins outPins) := by
  have hpins : d.branchPins branch = .ok (inPins, outPins) := by
    simp only [branchPins, hn, hc]
  refine removeChoice_eq_ok.mpr ⟨inPins, outPins, hpins, hin, hout, fun e he => ?_, rfl⟩
  rcases List.mem_append.mp he with he | he
  · obtain ⟨link, hlink, hnode⟩ := exists_of_mem_occurrences he
    rw [← hnode]
    exact lt_of_mem_links hn hends hlink
  · obtain ⟨link, hlink, hnode⟩ := exists_of_mem_occurrences he
    rw [← hnode]
    exact lt_of_mem_links hn hends hlink

end

/-- Taking a choice from a question that is not linked to itself takes the edges on its last entry
and on its last exit, at both of their ends. All other links of the document stay as they are, and
so does all else but the pins of the question. -/
theorem removeChoice_exact {n : Node} (hn : d.node? branch = some n)
    (hc : n.content = .branch inPins outPins) (hin : 3 < inPins) (hout : 2 < outPins)
    (hself : d.exits branch branch = [] ∨ d.entries branch branch = [])
    (hends : ∀ link ∈ n.inputs ++ n.outputs, link.node < d.nodes.length)
    (hm : ∀ u < d.nodes.length, u ≠ branch → d.Mirrored u branch ∧ d.Mirrored branch u) :
    let after : Document :=
      { d with nodes := d.nodes.mapIdx (d.nodeWithoutChoice branch inPins outPins) }
    d.removeChoice branch = .ok after ∧
    (∀ u, u ≠ branch →
      after.Mirrored u branch ∧ after.Mirrored branch u ∧
      after.edges u branch = (d.edges u branch).filter (·.2.slot != inPins - 1) ∧
      after.edges branch u = (d.edges branch u).filter (·.1.slot != outPins - 1)) ∧
    ∀ u v, u ≠ branch → v ≠ branch →
      after.exits u v = d.exits u v ∧ after.entries v u = d.entries v u := by
  intro after
  have hafter : d.withoutChoice branch inPins outPins = after := withoutChoice_eq hself
  have hok : d.removeChoice branch = .ok after := by
    rw [← hafter]
    exact removeChoice_eq_ok_withoutChoice hn hends hc hin hout
  refine ⟨hok, fun u hu => ?_, fun u v hu hv => ?_⟩
  · obtain ⟨hto, hfrom⟩ := mirrored_of_ends hn hends hm hu
    refine ⟨mirrored_removeChoice hok hto fun h => absurd h hu,
      mirrored_removeChoice hok hfrom fun h => absurd h.symm hu, ?_, ?_⟩
    · rw [← hafter]
      exact edges_withoutChoice_to hu hto
    · rw [← hafter]
      exact edges_withoutChoice_from hu hfrom
  · rw [← hafter]
    exact ⟨linksTo_withoutChoice_of_ne hu hv, linksTo_withoutChoice_of_ne hv hu⟩

/-- A comparison feeds two entries of a question and follows on two of its exits, and the last one
of either kind goes with the choice. -/
def doubled : List Builder.Call :=
  [.add (.dialogue "Q" none), .branch, .addChoice 1, .add (.logic .int .equals {} {}),
    .connect 0 0 1 0, .connect 2 0 1 1, .connect 1 2 2 0, .connect 2 1 1 3, .connect 1 0 2 1]

theorem doubled_removeChoice :
    let d := ((Builder.new "doubled").after doubled).document
    d.edges 2 1 = [(⟨1, 0⟩, ⟨2, 1⟩), (⟨1, 1⟩, ⟨2, 3⟩)] ∧
    d.edges 1 2 = [(⟨2, 2⟩, ⟨1, 0⟩), (⟨2, 0⟩, ⟨1, 1⟩)] ∧
    ∃ after, d.removeChoice 1 = .ok after ∧
      after.edges 2 1 = [(⟨1, 0⟩, ⟨2, 1⟩)] ∧ after.edges 1 2 = [(⟨2, 0⟩, ⟨1, 1⟩)] := by
  intro d
  have hbuild : ((Builder.new "doubled").after doubled).build = .ok d := rfl
  have hneat : d.Neat := Builder.neat_of_build hbuild
  have hn : d.node? 1 = some _ := rfl
  obtain ⟨hok, hedges, -⟩ := removeChoice_exact hn rfl (by decide) (by decide) (.inl rfl)
    (by decide) fun u _ _ => ⟨hneat.mirrored u 1, hneat.mirrored 1 u⟩
  obtain ⟨-, -, hto, hfrom⟩ := hedges 2 (by decide)
  exact ⟨rfl, rfl, _, hok, hto, hfrom⟩

end DialogueTree.Document
