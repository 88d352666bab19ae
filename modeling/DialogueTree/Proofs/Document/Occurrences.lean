import Mathlib.Data.List.Basic
import Mathlib.Data.List.Induction
import DialogueTree.Document.Edit

/-!
# Occurrences of links

The far end of an edge is found by its rank: how many of the links to the same node stand before it.
Ranks are counted while nothing has been taken out yet, and used while links are being taken out.
They stay right because the links to one node are taken out in the order of falling ranks.

Results:
* `linksTo_dropOccurrence`: what is left of the links to a node when one of them is taken out.
* `ranks_perm`: the ranks of the links on a slot are their positions among the links to their node.
* `length_linksTo_dropRanks`: how many far ends stay when those of the links on a slot are taken
  out.
-/

namespace DialogueTree.Document

/-- The links of a list that lead to a node. -/
def linksTo (node : Nat) (links : List Link) : List Link := links.filter (·.node == node)

@[simp] theorem linksTo_nil (node : Nat) : linksTo node [] = [] := rfl

@[simp] theorem linksTo_append (node : Nat) (links more : List Link) :
    linksTo node (links ++ more) = linksTo node links ++ linksTo node more :=
  List.filter_append ..

theorem linksTo_cons_self {node : Nat} {link : Link} (h : link.node = node) (links : List Link) :
    linksTo node (link :: links) = link :: linksTo node links := by
  simp [linksTo, h]

theorem linksTo_cons_of_ne {node : Nat} {link : Link} (h : link.node ≠ node)
    (links : List Link) : linksTo node (link :: links) = linksTo node links := by
  simp [linksTo, h]

theorem linksTo_filter (node : Nat) (p : Link → Bool) (links : List Link) :
    linksTo node (links.filter p) = (linksTo node links).filter p := by
  simp only [linksTo, List.filter_filter, Bool.and_comm]

/-! ## Taking links out -/

section

variable {node : Nat} {link : Link} (rank : Nat) (links : List Link)

theorem dropOccurrence_cons_zero (h : link.node = node) :
    dropOccurrence node 0 (link :: links) = links := by
  simp [dropOccurrence, h]

theorem dropOccurrence_cons_succ (h : link.node = node) :
    dropOccurrence node (rank + 1) (link :: links) = link :: dropOccurrence node rank links := by
  simp [dropOccurrence, h]

theorem dropOccurrence_cons_of_ne (h : link.node ≠ node) :
    dropOccurrence node rank (link :: links) = link :: dropOccurrence node rank links := by
  cases rank <;> simp [dropOccurrence, h]

end

/-- Among the links to a node, the one with a rank is at the position that the rank tells. -/
theorem linksTo_dropOccurrence (node rank : Nat) (links : List Link) :
    linksTo node (dropOccurrence node rank links) = (linksTo node links).eraseIdx rank := by
  induction links generalizing rank with
  | nil => cases rank <;> rfl
  | cons link links ih =>
    by_cases h : link.node = node
    · rw [linksTo_cons_self h]
      cases rank with
      | zero => rw [dropOccurrence_cons_zero links h, List.eraseIdx_cons_zero]
      | succ rank =>
        rw [dropOccurrence_cons_succ rank links h, linksTo_cons_self h, ih, List.eraseIdx_cons_succ]
    · rw [dropOccurrence_cons_of_ne rank links h, linksTo_cons_of_ne h, linksTo_cons_of_ne h, ih]

theorem linksTo_dropOccurrence_of_ne {node other : Nat} (h : other ≠ node) (rank : Nat)
    (links : List Link) : linksTo other (dropOccurrence node rank links) = linksTo other links := by
  induction links generalizing rank with
  | nil => cases rank <;> rfl
  | cons link links ih =>
    by_cases hnode : link.node = node
    · have hother : link.node ≠ other := fun heq => h (heq.symm.trans hnode)
      rw [linksTo_cons_of_ne hother]
      cases rank with
      | zero => rw [dropOccurrence_cons_zero links hnode]
      | succ rank => rw [dropOccurrence_cons_succ rank links hnode, linksTo_cons_of_ne hother, ih]
    · rw [dropOccurrence_cons_of_ne rank links hnode]
      by_cases hother : link.node = other
      · rw [linksTo_cons_self hother, linksTo_cons_self hother, ih]
      · rw [linksTo_cons_of_ne hother, linksTo_cons_of_ne hother, ih]

/-- Takes out the links to a node that have some ranks, one after another. -/
def dropRanks (node : Nat) (ranks : List Nat) (links : List Link) : List Link :=
  ranks.foldl (fun links rank => dropOccurrence node rank links) links

theorem linksTo_dropRanks (node : Nat) (ranks : List Nat) (links : List Link) :
    linksTo node (dropRanks node ranks links) = ranks.foldl List.eraseIdx (linksTo node links) := by
  induction ranks generalizing links with
  | nil => rfl
  | cons rank ranks ih =>
    rw [List.foldl_cons, ← linksTo_dropOccurrence]
    exact ih _

theorem linksTo_dropRanks_of_ne {node other : Nat} (h : other ≠ node) (ranks : List Nat)
    (links : List Link) : linksTo other (dropRanks node ranks links) = linksTo other links := by
  induction ranks generalizing links with
  | nil => rfl
  | cons rank ranks ih => exact (ih _).trans (linksTo_dropOccurrence_of_ne h rank links)

/-- Positions that are taken out in falling order are those of the list as it was at first. -/
theorem length_foldl_eraseIdx {α : Type} {positions : List Nat} {xs : List α}
    (hfalling : positions.Pairwise (· > ·)) (hlt : ∀ k ∈ positions, k < xs.length) :
    (positions.foldl List.eraseIdx xs).length + positions.length = xs.length := by
  induction positions generalizing xs with
  | nil => rfl
  | cons k rest ih =>
    obtain ⟨hk, hrest⟩ := List.pairwise_cons.mp hfalling
    have hlast : k < xs.length := hlt k List.mem_cons_self
    have hlen : (xs.eraseIdx k).length = xs.length - 1 := List.length_eraseIdx_of_lt hlast
    -- What comes after is smaller than `k`, so it has not moved and is still inside.
    have hinside : ∀ j ∈ rest, j < (xs.eraseIdx k).length := by
      intro j hj
      have := hk j hj
      omega
    have hkept := ih hrest hinside
    rw [List.foldl_cons, List.length_cons]
    omega

/-! ## Ranks -/

/-- The ranks of the links to a node on a slot, in the order in which they are taken out. -/
def ranks (links : List Link) (slot node : Nat) : List Nat :=
  ((occurrences links slot).filter (·.node == node)).map (·.earlier)

/-- The occurrences of the links on a slot, in the order of the links. -/
def found (links : List Link) (slot : Nat) : List Occurrence :=
  links.zipIdx.filterMap fun (link, i) =>
    if link.slot = slot then some ⟨link.node, (links.take i).countP (·.node == link.node)⟩ else none

/-- The ranks of the links to a node on a slot, in the order of the links. -/
def ranksFound (links : List Link) (slot node : Nat) : List Nat :=
  ((linksTo node links).zipIdx.filter (·.1.slot == slot)).map (·.2)

theorem found_append_singleton (links : List Link) (link : Link) (slot : Nat) :
    found (links ++ [link]) slot = found links slot ++
      if link.slot = slot then [⟨link.node, (linksTo link.node links).length⟩] else [] := by
  have hbefore : links.zipIdx.filterMap (fun (l, i) =>
      if l.slot = slot then
        some (⟨l.node, ((links ++ [link]).take i).countP (·.node == l.node)⟩ : Occurrence)
      else none) = found links slot := by
    refine List.filterMap_congr fun ⟨l, i⟩ hmem => ?_
    have hi : i ≤ links.length := by
      have := List.snd_lt_of_mem_zipIdx hmem
      simp only at this
      omega
    simp only [List.take_append_of_le_length hi]
  rw [found, List.zipIdx_append, List.filterMap_append, hbefore]
  by_cases h : link.slot = slot
  · simp [h, linksTo, List.countP_eq_length_filter]
  · simp [h]

/-- The links to a node are ranked by their positions among the links to this node. -/
theorem ranks_found (links : List Link) (slot node : Nat) :
    ((found links slot).filter (·.node == node)).map (·.earlier) = ranksFound links slot node := by
  -- A rank counts the links before, so the induction takes the last link off.
  induction links using List.reverseRecOn with
  | nil => rfl
  | append_singleton links link ih =>
    rw [found_append_singleton, List.filter_append, List.map_append, ih, ranksFound, ranksFound,
      linksTo_append, List.zipIdx_append, List.filter_append, List.map_append]
    congr 1
    by_cases hnode : link.node = node
    · by_cases hslot : link.slot = slot
      · simp [hslot, hnode, linksTo_cons_self hnode]
      · simp [hslot, linksTo_cons_self hnode]
    · by_cases hslot : link.slot = slot
      · simp [hslot, hnode, linksTo_cons_of_ne hnode]
      · simp [hslot, linksTo_cons_of_ne hnode]

theorem ranks_perm (links : List Link) (slot node : Nat) :
    (ranks links slot node).Perm (ranksFound links slot node) := by
  rw [← ranks_found]
  exact ((List.mergeSort_perm _ _).filter _).map _

theorem ranksFound_rising (links : List Link) (slot node : Nat) :
    (ranksFound links slot node).Pairwise (· < ·) := by
  have hall : ((linksTo node links).zipIdx.map (·.2)).Pairwise (· < ·) := by
    rw [List.zipIdx_map_snd]
    exact List.pairwise_lt_range'
  exact hall.sublist (List.filter_sublist.map _)

/-- The links to a node are taken out in the order of falling ranks. -/
theorem ranks_falling (links : List Link) (slot node : Nat) :
    (ranks links slot node).Pairwise (· > ·) := by
  have hsorted : (ranks links slot node).Pairwise (· ≥ ·) := by
    have hall : (occurrences links slot).Pairwise fun a b => b.earlier ≤ a.earlier := by
      refine (List.pairwise_mergeSort ?_ ?_ _).imp fun h => of_decide_eq_true h
      · intro a b c hab hbc
        simp only [decide_eq_true_eq] at *
        omega
      · intro a b
        simp only [Bool.or_eq_true, decide_eq_true_eq]
        omega
    exact List.pairwise_map.mpr (hall.filter _)
  have hnodup : (ranks links slot node).Nodup :=
    (ranks_perm links slot node).nodup_iff.mpr
      ((ranksFound_rising links slot node).imp fun h => Nat.ne_of_lt h)
  exact (hsorted.and hnodup).imp fun ⟨hle, hne⟩ => Nat.lt_of_le_of_ne hle hne.symm

/-- What has a rank is a link on the slot. -/
theorem mem_ranks {links : List Link} {slot node rank : Nat} :
    rank ∈ ranks links slot node ↔
      ∃ link, (linksTo node links)[rank]? = some link ∧ link.slot = slot := by
  rw [(ranks_perm links slot node).mem_iff, ranksFound]
  simp [List.mem_zipIdx_iff_getElem?]

theorem length_ranks (links : List Link) (slot node : Nat) :
    (ranks links slot node).length = ((linksTo node links).filter (·.slot == slot)).length := by
  rw [(ranks_perm links slot node).length_eq, ranksFound, List.length_map,
    ← List.countP_eq_length_filter, ← List.countP_eq_length_filter]
  conv_rhs => rw [← List.zipIdx_map_fst 0 (linksTo node links), List.countP_map]
  rfl

/-- Where the far ends of the links to a node on a slot are taken out, as many far ends stay as
links to this node on other slots. -/
theorem length_linksTo_dropRanks {links far : List Link} {slot node owner : Nat}
    (h : (linksTo owner far).length = (linksTo node links).length) :
    (linksTo owner (dropRanks owner (ranks links slot node) far)).length =
      ((linksTo node links).filter (·.slot != slot)).length := by
  have hinside : ∀ rank ∈ ranks links slot node, rank < (linksTo owner far).length := by
    intro rank hrank
    obtain ⟨link, hlink, -⟩ := mem_ranks.mp hrank
    rw [h]
    exact (List.getElem?_eq_some_iff.mp hlink).1
  have hfar := length_foldl_eraseIdx (ranks_falling links slot node) hinside
  have hlinks := List.length_eq_length_filter_add (l := linksTo node links) (·.slot == slot)
  rw [length_ranks] at hfar
  rw [linksTo_dropRanks]
  simp only [bne]
  omega

end DialogueTree.Document
