import DialogueTree.Proofs.Document.Links

/-!
# Edges and their ends

Every edge is listed at both of its ends. Building keeps it so, and so do connections and choices
that are added. Where a choice is taken from a question the far ends of its edges are found by rank,
which goes right for every edge between the question and another node. The edges from a question
to itself have both of their ends in the two lists that are cut first, so that ranks may be off:
then one end of an edge stays, or the end of another edge goes.

Results:
* `Document.mirrored_run`: which pairs of nodes an edit keeps in order.
* `Document.mirrored_edited`: which pairs of nodes are in order after any edits.
* `Document.edges_mirrored`: the edges of a document that has been built and edited, and its
  issues.
-/

namespace DialogueTree

namespace Document

variable {d d' : Document} {u v branch : Nat}

/-- The links of a node to the node that they lead to. -/
def exits (d : Document) (source target : Nat) : List Link := linksTo target (d.links true source)

/-- The links of a node to the node that they come from. -/
def entries (d : Document) (target source : Nat) : List Link :=
  linksTo source (d.links false target)

/-- Whether the edges from one node to another are as many at both ends. -/
def Mirrored (d : Document) (u v : Nat) : Prop := (d.exits u v).length = (d.entries v u).length

/-- Whether a question is linked to itself on both of its last slots. -/
def Tangled (d : Document) (branch : Nat) : Prop :=
  ∃ inPins outPins, d.branchPins branch = .ok (inPins, outPins) ∧
    (∃ link ∈ d.entries branch branch, link.slot = inPins - 1) ∧
    ∃ link ∈ d.exits branch branch, link.slot = outPins - 1

/-! ## One edit -/

theorem mirrored_connect {source sourceSlot target targetSlot : Nat}
    (h : d.connect source sourceSlot target targetSlot = .ok d') (hm : d.Mirrored u v) :
    d'.Mirrored u v := by
  unfold Mirrored exits entries at *
  rw [(links_connect h u).1, (links_connect h v).2, linksTo_append, linksTo_append,
    List.length_append, List.length_append, hm]
  by_cases hu : source = u
  · by_cases hv : target = v
    · simp [hu, hv, linksTo]
    · simp [hu, hv, linksTo]
  · by_cases hv : target = v
    · simp [hu, hv, linksTo]
    · simp [hu, hv]

theorem mirrored_addChoice (h : d.addChoice branch = .ok d') (hm : d.Mirrored u v) :
    d'.Mirrored u v := by
  unfold Mirrored exits entries at *
  rw [links_addChoice h, links_addChoice h, hm]

section

variable {inPins outPins : Nat} {outbound : Bool}

/-- At the question, the links to another node stay unless they are on the last slot. -/
theorem linksTo_withoutChoice_near (hv : v ≠ branch) :
    linksTo v ((d.withoutChoice branch inPins outPins).links outbound branch) =
      (linksTo v (d.links outbound branch)).filter
        (·.slot != lastSlot inPins outPins outbound) := by
  rw [links_withoutChoice, linksTo_dropRanks_of_ne hv, if_pos rfl, linksTo_filter]

/-- At the far end of the edges of a question as many links stay, if those on the near end are
not cut. -/
theorem length_linksTo_withoutChoice_far
    (hnear : u = branch → ∀ link ∈ linksTo branch (d.links outbound branch),
      link.slot ≠ lastSlot inPins outPins outbound)
    (hm : (linksTo branch (d.links outbound u)).length =
      (linksTo u (d.links (!outbound) branch)).length) :
    (linksTo branch ((d.withoutChoice branch inPins outPins).links outbound u)).length =
      ((linksTo u (d.links (!outbound) branch)).filter
        (·.slot != lastSlot inPins outPins (!outbound))).length := by
  rw [links_withoutChoice]
  refine length_linksTo_dropRanks ?_
  by_cases hu : branch = u
  · subst hu
    rw [if_pos rfl, linksTo_filter, List.filter_eq_self.mpr, hm]
    intro link hlink
    simpa using hnear rfl link hlink
  · rw [if_neg hu, hm]

/-- Where no edge of the question to itself is cut on one side, only those cut on the other go. -/
theorem linksTo_withoutChoice_clear
    (hclear : ∀ link ∈ linksTo branch (d.links outbound branch),
      link.slot ≠ lastSlot inPins outPins outbound) :
    linksTo branch ((d.withoutChoice branch inPins outPins).links (!outbound) branch) =
      (linksTo branch (d.links (!outbound) branch)).filter
        (·.slot != lastSlot inPins outPins (!outbound)) := by
  have hranks : ranks (d.links outbound branch) (lastSlot inPins outPins outbound) branch = [] := by
    refine List.eq_nil_iff_forall_not_mem.mpr fun rank hrank => ?_
    obtain ⟨link, hlink, hslot⟩ := mem_ranks.mp hrank
    exact hclear link (List.mem_of_getElem? hlink) hslot
  rw [links_withoutChoice, Bool.not_not, hranks, if_pos rfl]
  exact linksTo_filter ..

end

/-- Taking a choice from a question keeps all edges in order between different nodes, and those of
the question to itself unless there are such edges on both of its last slots. -/
theorem mirrored_removeChoice (h : d.removeChoice branch = .ok d') (hm : d.Mirrored u v)
    (huntangled : u = v → u = branch → ¬d.Tangled branch) : d'.Mirrored u v := by
  obtain ⟨inPins, outPins, hpins, -, -, -, rfl⟩ := removeChoice_eq_ok.mp h
  unfold Mirrored exits entries at *
  by_cases hu : u = branch
  · by_cases hv : v = branch
    · subst hv hu
      -- Ranks are off only where both lists of the question are cut: here one of them is not.
      by_cases hin : ∃ link ∈ d.entries u u, link.slot = lastSlot inPins outPins false
      · have hclear : ∀ link ∈ linksTo u (d.links true u),
            link.slot ≠ lastSlot inPins outPins true := by
          intro link hlink hslot
          exact huntangled rfl rfl ⟨inPins, outPins, hpins, hin, link, hlink, hslot⟩
        rw [length_linksTo_withoutChoice_far (fun _ => hclear) hm]
        exact congrArg List.length (linksTo_withoutChoice_clear hclear).symm
      · have hclear : ∀ link ∈ linksTo u (d.links false u),
            link.slot ≠ lastSlot inPins outPins false := by
          intro link hlink hslot
          exact hin ⟨link, hlink, hslot⟩
        rw [length_linksTo_withoutChoice_far (fun _ => hclear) hm.symm]
        exact congrArg List.length (linksTo_withoutChoice_clear hclear)
    · subst hu
      rw [linksTo_withoutChoice_near hv,
        length_linksTo_withoutChoice_far (fun hvu => absurd hvu hv) hm.symm]
      rfl
  · by_cases hv : v = branch
    · subst hv
      rw [linksTo_withoutChoice_near hu,
        length_linksTo_withoutChoice_far (fun huv => absurd huv hu) hm]
      rfl
    · rw [links_withoutChoice, links_withoutChoice, linksTo_dropRanks_of_ne hv,
        linksTo_dropRanks_of_ne hu, if_neg (Ne.symm hu), if_neg (Ne.symm hv), hm]

/-- One edit keeps all edges in order, except perhaps those of a tangled question to itself. -/
theorem mirrored_run {e : Edit} (h : e.run d = .ok d') (hm : d.Mirrored u v)
    (huntangled : u = v → e = .removeChoice u → ¬d.Tangled u) : d'.Mirrored u v := by
  cases e with
  | connect source sourceSlot target targetSlot => exact mirrored_connect h hm
  | addChoice branch => exact mirrored_addChoice h hm
  | removeChoice branch =>
    refine mirrored_removeChoice h hm fun huv hu => ?_
    subst hu
    exact huntangled huv rfl

/-! ## Any edits -/

/-- Whether no choice is taken from a question while it is tangled. -/
def Untangled (d : Document) (u : Nat) (edits : List Edit) : Prop :=
  ∀ before rest, edits = before ++ .removeChoice u :: rest →
    (d.edited before).Tangled u → ∃ e, (d.edited before).removeChoice u = .error e

theorem Untangled.tail {e : Edit} {rest : List Edit} (h : d.Untangled u (e :: rest)) :
    ((e.run d).toOption.getD d).Untangled u rest := by
  intro before after hrest
  exact h (e :: before) after (by rw [hrest, List.cons_append])

theorem mirrored_edited {edits : List Edit} (hm : d.Mirrored u v)
    (h : u = v → d.Untangled u edits) : (d.edited edits).Mirrored u v := by
  induction edits generalizing d with
  | nil => exact hm
  | cons e rest ih =>
    refine ih ?_ fun huv => (h huv).tail
    cases hrun : e.run d with
    | error _ => exact hm
    | ok d' =>
      refine mirrored_run hrun hm fun huv he htangled => ?_
      subst he
      obtain ⟨e', he'⟩ := h huv [] rest rfl htangled
      cases he'.symm.trans hrun

/-- What building and most edits keep: nodes declare their positions, and all edges are as many at
both of their ends. -/
structure Neat (d : Document) : Prop where
  indices : d.indices = List.range d.nodes.length
  mirrored (u v : Nat) : d.Mirrored u v

theorem indices_eq_range (h : d'.indices = d.indices) (hd : d.indices = List.range d.nodes.length) :
    d'.indices = List.range d'.nodes.length := by
  have hlength : d'.nodes.length = d.nodes.length := by
    rw [← length_indices, h, length_indices]
  rw [h, hd, hlength]

theorem Neat.run {e : Edit} (hd : d.Neat) (h : e.run d = .ok d')
    (he : ∀ branch, e ≠ .removeChoice branch) : d'.Neat where
  indices := indices_eq_range (indices_run h) hd.indices
  mirrored u v := mirrored_run h (hd.mirrored u v) fun _ hu => absurd hu (he u)

end Document

/-! ## Building -/

namespace Builder

variable {b : Builder}

theorem neat_add (h : b.document.Neat) (content : Content) : (b.add content).document.Neat where
  indices := by
    have hlength : (b.add content).document.nodes.length = b.next + 1 := List.length_append ..
    rw [indices_add, h.indices, hlength, List.range_succ]
    rfl
  mirrored u v := by
    have hm := h.mirrored u v
    unfold Document.Mirrored Document.exits Document.entries at *
    rw [links_add, links_add, hm]

theorem neat_edit (h : b.document.Neat) {e : Edit} (he : ∀ branch, e ≠ .removeChoice branch) :
    (b.edit e.run).document.Neat := by
  rcases b.document_edit e.run with hkept | hrun
  · rw [hkept]
    exact h
  · exact h.run hrun he

theorem neat_run (h : b.document.Neat) (call : Call) : (call.run b).document.Neat := by
  cases call with
  | defaultStart id => exact ⟨h.indices, h.mirrored⟩
  | declare v => exact ⟨h.indices, h.mirrored⟩
  | add content => exact neat_add h content
  | branch => exact neat_add h _
  | connect source sourceSlot target targetSlot =>
    exact neat_edit h (e := .connect source sourceSlot target targetSlot) nofun
  | chain source target => exact neat_edit h (e := .connect source 0 target 0) nofun
  | addChoice node => exact neat_edit h (e := .addChoice node) nofun

theorem neat_after (h : b.document.Neat) (calls : List Call) : (b.after calls).document.Neat := by
  induction calls generalizing b with
  | nil => exact h
  | cons call rest ih => exact ih (neat_run h call)

/-- Whatever is built is in order. -/
theorem neat_of_build {name : String} {calls : List Call} {d : Document}
    (h : ((new name).after calls).build = .ok d) : d.Neat := by
  obtain ⟨-, rfl⟩ := build_eq_ok.mp h
  exact neat_after (b := new name) ⟨rfl, fun _ _ => rfl⟩ calls

end Builder

/-! ## Issues -/

/-- Whether an issue is about the index that a node declares, or about a link. -/
def Issue.ofWiring : Issue → Bool
  | indexMismatch .. | edgeOutOfRange .. | edgeOneSided .. => true
  | _ => false

namespace Document

variable {d : Document} {i : Nat} {n : Node} {issue : Issue}

theorem ofWiring_of_mem_ite {c : Prop} [Decidable c] {possible : Issue}
    (hpossible : possible.ofWiring = false) (h : issue ∈ if c then [possible] else []) :
    issue.ofWiring = false := by
  split at h
  · rw [List.mem_singleton.mp h, hpossible]
  · cases h

theorem ofWiring_of_mem_treeIssues (h : issue ∈ d.treeIssues) : issue.ofWiring = false := by
  simp only [treeIssues, List.mem_append] at h
  rcases h with (h | h) | h
  · split at h
    · rw [List.mem_singleton.mp h]
      rfl
    · cases h
    · rw [List.mem_singleton.mp h]
      rfl
  · exact ofWiring_of_mem_ite rfl h
  · exact ofWiring_of_mem_ite rfl h

theorem ofWiring_of_mem_pinIssues (h : issue ∈ pinIssues i n) : issue.ofWiring = false := by
  unfold pinIssues at h
  split at h
  · exact ofWiring_of_mem_ite rfl h
  · cases h

theorem ofWiring_of_mem_sideIssues (h : issue ∈ d.sideIssues i n) : issue.ofWiring = false := by
  unfold sideIssues at h
  split at h
  · exact ofWiring_of_mem_ite rfl h
  · exact ofWiring_of_mem_ite rfl h
  · rcases List.mem_append.mp h with h | h
    · exact ofWiring_of_mem_ite rfl h
    · split at h
      · exact ofWiring_of_mem_ite rfl h
      · cases h
  · exact ofWiring_of_mem_ite rfl h
  · exact ofWiring_of_mem_ite rfl h
  · cases h

/-- A link that is listed on one side only is to blame for each issue with links. -/
theorem exists_of_mem_linkIssues {outbound : Bool}
    (h : issue ∈ d.linkIssues i outbound (d.links outbound i)) :
    ∃ j, linksTo j (d.links outbound i) ≠ [] ∧ linksTo i (d.links (!outbound) j) = [] ∧
      ((d.node? j = none ∧ issue = .edgeOutOfRange i j) ∨
        issue = .edgeOneSided i outbound j) := by
  obtain ⟨link, hlink, hissue⟩ := List.mem_flatMap.mp h
  refine ⟨link.node, List.ne_nil_of_mem (List.mem_filter.mpr ⟨hlink, beq_self_eq_true _⟩), ?_⟩
  split at hissue
  next hnone =>
    exact ⟨by rw [links_of_missing hnone, linksTo_nil],
      .inl ⟨hnone, List.mem_singleton.mp hissue⟩⟩
  next m hm =>
    by_cases hback : (if outbound then m.inputs else m.outputs).any (·.node == i) = true
    · rw [if_pos hback] at hissue
      cases hissue
    · rw [if_neg hback] at hissue
      refine ⟨List.filter_eq_nil_iff.mpr fun back hmem hnode => ?_,
        .inr (List.mem_singleton.mp hissue)⟩
      rw [links_of_node? hm] at hmem
      refine hback (List.any_eq_true.mpr ⟨back, ?_, hnode⟩)
      cases outbound <;> exact hmem

theorem cases_of_mem_issues (h : issue ∈ d.issues) :
    issue.ofWiring = false ∨
    (∃ i n, d.node? i = some n ∧ n.index ≠ i) ∨
    ∃ i outbound, issue ∈ d.linkIssues i outbound (d.links outbound i) := by
  rcases List.mem_append.mp h with h | h
  · exact .inl (ofWiring_of_mem_treeIssues h)
  · obtain ⟨⟨n, i⟩, hmem, h⟩ := List.mem_flatMap.mp h
    have hn : d.node? i = some n := List.mem_zipIdx_iff_getElem?.mp hmem
    simp only [nodeIssues, List.mem_append] at h
    rcases h with ((((h | h) | h) | h) | h) | h
    · refine .inr (.inl ⟨i, n, hn, fun hindex => ?_⟩)
      rw [indexIssues, if_neg (not_not_intro hindex)] at h
      cases h
    · exact .inl (ofWiring_of_mem_ite rfl h)
    · exact .inl (ofWiring_of_mem_pinIssues h)
    · exact .inl (ofWiring_of_mem_sideIssues h)
    · exact .inr (.inr ⟨i, true, by rwa [links_of_node? hn]⟩)
    · exact .inr (.inr ⟨i, false, by rwa [links_of_node? hn]⟩)

theorem linksTo_eq_nil {j : Nat} {outbound : Bool} (hij : d.Mirrored i j) (hji : d.Mirrored j i)
    (h : linksTo i (d.links (!outbound) j) = []) : linksTo j (d.links outbound i) = [] := by
  refine List.eq_nil_of_length_eq_zero ?_
  cases outbound with
  | true => exact hij.trans (congrArg List.length h)
  | false => exact hji.symm.trans (congrArg List.length h)

/-- In a document that has been built and edited the edges are as many at both of their ends,
except perhaps those of a question to itself from which a choice has been taken while it was
tangled. Nodes declare their positions, no link leads to a missing node, and nothing but such edges
can be found to be listed at one end only. -/
theorem edges_mirrored {name : String} {calls : List Builder.Call} {built : Document}
    (h : ((Builder.new name).after calls).build = .ok built) (edits : List Edit) :
    let d := built.edited edits
    (∀ u v, (u = v → built.Untangled u edits) → (d.exits u v).length = (d.entries v u).length) ∧
    ∀ issue ∈ d.issues,
      issue.report.code ≠ "TREE_INDEX_MISMATCH" ∧
      issue.report.code ≠ "TREE_EDGE_OUT_OF_RANGE" ∧
      (issue.report.code = "TREE_EDGE_NOT_MIRRORED" →
        ∃ u outbound, issue = .edgeOneSided u outbound u ∧ ¬built.Untangled u edits) := by
  intro d
  have hneat : built.Neat := Builder.neat_of_build h
  have hmirrored (u v : Nat) (huv : u = v → built.Untangled u edits) : d.Mirrored u v :=
    mirrored_edited (hneat.mirrored u v) huv
  refine ⟨hmirrored, fun issue hissue => ?_⟩
  rcases cases_of_mem_issues hissue with hother | ⟨i, n, hn, hindex⟩ | ⟨i, outbound, hlink⟩
  · cases issue with
    | indexMismatch | edgeOutOfRange | edgeOneSided => cases hother
    | _ => simp [Issue.report]
  · exact absurd (index_of_indices (indices_eq_range (indices_edited _ _) hneat.indices) hn) hindex
  · obtain ⟨j, hthere, hback, hblame⟩ := exists_of_mem_linkIssues hlink
    -- Only an edge from a node to itself can be missing at one end.
    have hself : i = j ∧ ¬built.Untangled i edits := by
      by_contra hne
      refine hthere (linksTo_eq_nil (hmirrored i j ?_) (hmirrored j i ?_) hback)
      · intro hij
        by_contra htangled
        exact hne ⟨hij, htangled⟩
      · rintro rfl
        by_contra htangled
        exact hne ⟨rfl, htangled⟩
    obtain ⟨rfl, htangled⟩ := hself
    rcases hblame with ⟨hnone, -⟩ | rfl
    · rw [links_of_missing hnone] at hthere
      exact absurd rfl hthere
    · exact ⟨by simp [Issue.report], by simp [Issue.report], fun _ => ⟨i, outbound, rfl, htangled⟩⟩

/-! ## A question that leads to itself -/

/-- A question with one more choice, whose first exit leads to its own last entry. -/
def looped : List Builder.Call := [.branch, .addChoice 0, .connect 0 0 0 3]

/-- Where the question leads to itself on one of the two last slots only, its edges stay in
order. -/
theorem looped_edges_mirrored :
    let b := (Builder.new "looped").after looped
    let edits : List Edit := [.removeChoice 0]
    b.build = .ok b.document ∧ b.document.Untangled 0 edits ∧
    ((b.document.edited edits).exits 0 0).length =
      ((b.document.edited edits).entries 0 0).length := by
  intro b edits
  have hbuild : b.build = .ok b.document := rfl
  have huntangled : b.document.Untangled 0 edits := by
    rintro before rest hedits ⟨inPins, outPins, hpins, -, link, hlink, hslot⟩
    obtain rfl : before = [] := by
      cases before with
      | nil => rfl
      | cons e before => simp [edits] at hedits
    have hpins : (4, 3) = (inPins, outPins) := Except.ok.inj hpins
    have hlink : link ∈ [⟨0, 0⟩] := hlink
    cases hpins
    cases List.mem_singleton.mp hlink
    cases hslot
  exact ⟨hbuild, huntangled, (edges_mirrored hbuild edits).1 0 0 fun _ => huntangled⟩

/-- The question leads to itself on both of its last slots. Each of the two edges has one end there,
so both are to go with the choice, but one end of one of them stays. -/
theorem knot_torn :
    let b := (Builder.new "knot").after (looped ++ [.connect 0 2 0 1])
    let d := b.document.edited [.removeChoice 0]
    b.build = .ok b.document ∧
    b.document.exits 0 0 = [⟨0, 0⟩, ⟨0, 2⟩] ∧ b.document.entries 0 0 = [⟨0, 3⟩, ⟨0, 1⟩] ∧
    d.exits 0 0 = [] ∧ d.entries 0 0 = [⟨0, 1⟩] ∧
    Issue.edgeOneSided 0 false 0 ∈ d.issues := by
  decide +kernel

end Document

end DialogueTree
