import DialogueTree.Proofs.Document.InPlace

/-!
# What a builder builds

The document that some calls describe: the nodes in the order in which they are added, and the edges
in the order in which they are asked for. A builder builds it if each call is sound when it is made,
that is, if it names nodes that have been added by then. Otherwise it tells what is wrong with the
first call that is not. Where sums are checked, the calls go no further than one that asks for more
pins than there can be.

Results:
* `Builder.run_of_sound`, `Builder.run_of_faulty`: one call.
* `Builder.after_of_allSound`, `Builder.failure_after`: many calls.
* `Builder.afterChecked_eq`, `Builder.withChoices_of_not_overflow`: where sums are checked.
* `Builder.edits_whole_and_build_exact`: edits are all or nothing, and what is built or reported.
-/

namespace DialogueTree

/-- Some more pins, counted in 64 bits. -/
def morePins : Nat → Nat → Nat
  | 0, pins => pins
  | n + 1, pins => (pins + (n + 1)) % indexLimit

/-- As long as pins can be counted, they are. -/
theorem morePins_of_lt {n pins : Nat} (h : pins + n < indexLimit) : morePins n pins = pins + n := by
  cases n with
  | zero => rfl
  | succ n => exact Nat.mod_eq_of_lt h

theorem morePins_succ (n pins : Nat) :
    morePins (n + 1) pins = Document.onePinMore (morePins n pins) := by
  cases n with
  | zero => rfl
  | succ n => exact (Nat.mod_add_mod (pins + (n + 1)) indexLimit 1).symm

/-- A question with more choices than it had. -/
def Content.withChoices (n : Nat) : Content → Content
  | .branch inPins outPins => .branch (morePins n inPins) (morePins n outPins)
  | other => other

theorem Content.withChoices_zero (c : Content) : c.withChoices 0 = c := by
  cases c <;> rfl

namespace Builder

/-! ## What calls describe -/

/-- An edge that a builder is asked for. -/
structure Edge where
  source : Nat
  sourceSlot : Nat
  target : Nat
  targetSlot : Nat

namespace Call

/-- The content of the node that a call adds. -/
def content? : Call → Option Content
  | add content => some content
  | branch => some (.branch fewestInPins fewestOutPins)
  | _ => none

/-- The edge that a call asks for. -/
def edge? : Call → Option Edge
  | connect source sourceSlot target targetSlot => some ⟨source, sourceSlot, target, targetSlot⟩
  | chain source target => some ⟨source, 0, target, 0⟩
  | _ => none

/-- The node that a call gives one more choice. -/
def grown? : Call → Option Nat
  | addChoice node => some node
  | _ => none

/-- The default way in that a call sets. -/
def start? : Call → Option Int32
  | defaultStart id => some id
  | _ => none

/-- The variable that a call declares. -/
def declared? : Call → Option Variable
  | declare v => some v
  | _ => none

end Call

/-- The contents of the nodes that calls add. -/
def added (calls : List Call) : List Content := calls.filterMap Call.content?

/-- The edges that calls ask for. -/
def wired (calls : List Call) : List Edge := calls.filterMap Call.edge?

/-- How many choices calls add to a node. -/
def choices (calls : List Call) (i : Nat) : Nat := (calls.filterMap Call.grown?).count i

/-- The links to the edges that start at a node. -/
def starting (edges : List Edge) (i : Nat) : List Link :=
  (edges.filter (·.source == i)).map fun e => ⟨e.target, e.sourceSlot⟩

/-- The links to the edges that end at a node. -/
def ending (edges : List Edge) (i : Nat) : List Link :=
  (edges.filter (·.target == i)).map fun e => ⟨e.source, e.targetSlot⟩

/-- The node that calls describe at a position. -/
def describedNode (calls : List Call) (i : Nat) (content : Content) : Node where
  index := i
  content := content.withChoices (choices calls i)
  inputs := ending (wired calls) i
  outputs := starting (wired calls) i

/-- The document that calls describe. -/
def described (name : String) (calls : List Call) : Document where
  name := name
  defaultStart := (calls.filterMap Call.start?).getLast?.getD 0
  declared := calls.filterMap Call.declared?
  nodes := (added calls).mapIdx (describedNode calls)

/-- Whether a call names nodes that have been added by the calls before it: both ends of an edge,
and a question that is to have one more choice. -/
structure Call.Sound (before : List Call) (call : Call) : Prop where
  ends (e : Edge) (h : call.edge? = some e) :
    e.source < (added before).length ∧ e.target < (added before).length
  question (node : Nat) (h : call.grown? = some node) :
    ∃ inPins outPins, (added before)[node]? = some (.branch inPins outPins)

/-- What is wrong with a call after some others. -/
inductive Call.Faulty (before : List Call) (call : Call) : EditError → Prop
  | outOfRange (e : Edge) (he : call.edge? = some e)
      (h : ¬(e.source < (added before).length ∧ e.target < (added before).length)) :
      Faulty before call (.connectOutOfRange e.source e.target (added before).length)
  | noNode (node : Nat) (hnode : call.grown? = some node) (h : (added before)[node]? = none) :
      Faulty before call (.noNode node)
  | notBranch (node : Nat) (hnode : call.grown? = some node) (content : Content)
      (h : (added before)[node]? = some content) (hcontent : content.type ≠ .branch) :
      Faulty before call (.notBranch node content)

/-- Whether each call is sound when it is made. -/
def AllSound (calls : List Call) : Prop :=
  ∀ before call rest, calls = before ++ call :: rest → call.Sound before

/-- Whether an error tells what is wrong with the first call that is not sound. -/
def FirstFault (calls : List Call) (e : EditError) : Prop :=
  ∃ before call rest, calls = before ++ call :: rest ∧ AllSound before ∧ call.Faulty before e

variable {name : String} {calls before : List Call} {call : Call} {e : EditError} {i : Nat}

/-! ## Calls one by one -/

theorem after_append (b : Builder) (xs ys : List Call) :
    b.after (xs ++ ys) = (b.after xs).after ys := by
  induction xs generalizing b with
  | nil => rfl
  | cons call xs ih => exact ih (call.run b)

theorem added_snoc : added (calls ++ [call]) = added calls ++ call.content?.toList :=
  List.filterMap_append

/-- What has been added stays where it is. -/
theorem getElem?_added_snoc (h : i < (added calls).length) :
    (added (calls ++ [call]))[i]? = (added calls)[i]? := by
  rw [added_snoc, List.getElem?_append_left h]

theorem wired_snoc : wired (calls ++ [call]) = wired calls ++ call.edge?.toList :=
  List.filterMap_append

theorem choices_snoc :
    choices (calls ++ [call]) i = choices calls i + call.grown?.toList.count i := by
  rw [choices, List.filterMap_append, List.count_append]
  rfl

theorem allSound_nil : AllSound [] := by
  intro before call rest h
  simp at h

theorem allSound_snoc : AllSound (calls ++ [call]) ↔ AllSound calls ∧ call.Sound calls := by
  constructor
  · intro h
    refine ⟨fun before other rest hcalls => h before other (rest ++ [call]) ?_, h calls call [] rfl⟩
    rw [hcalls, List.append_assoc, List.cons_append]
  · rintro ⟨hcalls, hcall⟩ before other rest h
    -- The call asked about is the new one if nothing comes after it.
    rcases List.eq_nil_or_concat rest with rfl | ⟨rest, last, rfl⟩
    · obtain ⟨rfl, hlast⟩ := List.append_inj' h rfl
      cases hlast
      exact hcall
    · rw [List.concat_eq_append, ← List.cons_append, ← List.append_assoc] at h
      exact hcalls before other rest (List.append_inj' h rfl).1

theorem node?_described :
    (described name calls).node? i = (added calls)[i]?.map (describedNode calls i) :=
  List.getElem?_mapIdx

@[simp] theorem length_nodes_described :
    (described name calls).nodes.length = (added calls).length :=
  List.length_mapIdx

/-- Which positions sound calls name. -/
structure Bounded (calls : List Call) : Prop where
  source (e : Edge) (h : e ∈ wired calls) : e.source < (added calls).length
  target (e : Edge) (h : e ∈ wired calls) : e.target < (added calls).length
  grown (i : Nat) (h : (added calls).length ≤ i) : choices calls i = 0

theorem AllSound.bounded (h : AllSound calls) : Bounded calls := by
  induction calls using List.reverseRecOn with
  | nil => exact ⟨nofun, nofun, fun _ _ => rfl⟩
  | append_singleton before call ih =>
    obtain ⟨hbefore, hcall⟩ := allSound_snoc.mp h
    have hb := ih hbefore
    have hlength : (added before).length ≤ (added (before ++ [call])).length := by
      rw [added_snoc, List.length_append]
      exact Nat.le_add_right ..
    have hends (e : Edge) (he : e ∈ wired (before ++ [call])) :
        e.source < (added before).length ∧ e.target < (added before).length := by
      rw [wired_snoc, List.mem_append, Option.mem_toList] at he
      rcases he with he | he
      · exact ⟨hb.source e he, hb.target e he⟩
      · exact hcall.ends e he
    refine ⟨fun e he => Nat.lt_of_lt_of_le (hends e he).1 hlength,
      fun e he => Nat.lt_of_lt_of_le (hends e he).2 hlength, fun i hi => ?_⟩
    rw [choices_snoc, hb.grown i (Nat.le_trans hlength hi), Nat.zero_add, List.count_eq_zero,
      Option.mem_toList]
    intro hgrown
    obtain ⟨inPins, outPins, hquestion⟩ := hcall.question i hgrown
    rw [List.getElem?_eq_none (Nat.le_trans hlength hi)] at hquestion
    cases hquestion

theorem run_of_edge? {edge : Edge} (h : call.edge? = some edge) (b : Builder) :
    call.run b = b.connect edge.source edge.sourceSlot edge.target edge.targetSlot := by
  cases call with
  | connect | chain =>
    cases h
    rfl
  | _ => cases h

theorem run_of_grown? {node : Nat} (h : call.grown? = some node) (b : Builder) :
    call.run b = b.addChoice node := by
  cases call with
  | addChoice =>
    cases h
    rfl
  | _ => cases h

/-! ## Sound calls -/

/-- Calls that neither ask for an edge nor for a choice leave the nodes as they were described. -/
theorem describedNode_snoc (hedge : call.edge? = none) (hgrown : call.grown? = none) :
    describedNode (calls ++ [call]) = describedNode calls := by
  funext i content
  rw [describedNode, describedNode, wired_snoc, choices_snoc, hedge, hgrown, Option.toList_none,
    Option.toList_none, List.append_nil]
  rfl

/-- A new node has no links, and no choice has been added to it. -/
theorem describedNode_next (hb : Bounded calls) (content : Content) :
    describedNode calls (added calls).length content =
      { index := (added calls).length, content := content } := by
  have hstarting : starting (wired calls) (added calls).length = [] := by
    rw [starting, List.map_eq_nil_iff, List.filter_eq_nil_iff]
    intro e he
    simpa using Nat.ne_of_lt (hb.source e he)
  have hending : ending (wired calls) (added calls).length = [] := by
    rw [ending, List.map_eq_nil_iff, List.filter_eq_nil_iff]
    intro e he
    simpa using Nat.ne_of_lt (hb.target e he)
  rw [describedNode, hstarting, hending, hb.grown _ (Nat.le_refl _), Content.withChoices_zero]

/-- The name, the default way in and the declared variables change by calls of their own. -/
theorem described_of_nodes {nodes : List Node} (hstart : call.start? = none)
    (hdeclared : call.declared? = none)
    (h : (described name (calls ++ [call])).nodes = nodes) :
    { described name calls with nodes := nodes } = described name (calls ++ [call]) := by
  subst h
  simp [described, hstart, hdeclared]

theorem described_add (hb : Bounded calls) {content : Content}
    (hcontent : call.content? = some content) (hedge : call.edge? = none)
    (hgrown : call.grown? = none) (hstart : call.start? = none)
    (hdeclared : call.declared? = none) :
    (add ⟨described name calls, none⟩ content).document = described name (calls ++ [call]) := by
  refine described_of_nodes hstart hdeclared ?_
  rw [described, describedNode_snoc hedge hgrown, added_snoc, hcontent, Option.toList_some,
    List.mapIdx_concat, describedNode_next hb, next, length_nodes_described]
  rfl

theorem starting_snoc (edges : List Edge) (e : Edge) (i : Nat) :
    starting (edges ++ [e]) i =
      starting edges i ++ if e.source = i then [⟨e.target, e.sourceSlot⟩] else [] := by
  by_cases hi : e.source = i
  · simp [starting, hi]
  · simp [starting, hi]

theorem ending_snoc (edges : List Edge) (e : Edge) (i : Nat) :
    ending (edges ++ [e]) i =
      ending edges i ++ if e.target = i then [⟨e.source, e.targetSlot⟩] else [] := by
  by_cases hi : e.target = i
  · simp [ending, hi]
  · simp [ending, hi]

/-- Neither edges nor choices add nodes. -/
theorem node?_described_snoc (hcontent : call.content? = none) :
    (described name (calls ++ [call])).node? i =
      (added calls)[i]?.map (describedNode (calls ++ [call]) i) := by
  rw [node?_described, added_snoc, hcontent, Option.toList_none, List.append_nil]

theorem connect_described {e : Edge} (hedge : call.edge? = some e)
    (hsource : e.source < (added calls).length) (htarget : e.target < (added calls).length) :
    (described name calls).connect e.source e.sourceSlot e.target e.targetSlot =
      .ok (described name (calls ++ [call])) := by
  have hfields : call.content? = none ∧ call.grown? = none ∧ call.start? = none ∧
      call.declared? = none := by
    cases call with
    | connect | chain => exact ⟨rfl, rfl, rfl, rfl⟩
    | _ => cases hedge
  obtain ⟨hcontent, hgrown, hstart, hdeclared⟩ := hfields
  rw [Document.connect, length_nodes_described, if_pos ⟨hsource, htarget⟩]
  refine congrArg Except.ok (described_of_nodes hstart hdeclared (List.ext_getElem? fun i => ?_))
  change Document.node? _ i = Document.node? (Document.modifyNode (Document.modifyNode _ _ _) _ _) i
  rw [node?_described_snoc hcontent, Document.node?_modifyNode, Document.node?_modifyNode,
    node?_described, Option.map_map, Option.map_map]
  congr 1
  funext content
  simp only [describedNode, wired_snoc, choices_snoc, hedge, hgrown, Option.toList_some,
    starting_snoc, ending_snoc, Function.comp]
  -- An edge may lead from a node to itself; then both of its links go to one node.
  by_cases hs : e.source = i
  · by_cases ht : e.target = i
    · simp [hs, ht]
    · simp [hs, ht]
  · by_cases ht : e.target = i
    · simp [hs, ht]
    · simp [hs, ht]

theorem branchPins_described {i inPins outPins : Nat}
    (h : (added calls)[i]? = some (.branch inPins outPins)) :
    (described name calls).branchPins i =
      .ok (morePins (choices calls i) inPins, morePins (choices calls i) outPins) := by
  rw [Document.branchPins, node?_described, h]
  rfl

theorem addChoice_described {inPins outPins : Nat}
    (h : (added calls)[i]? = some (.branch inPins outPins)) :
    (described name calls).addChoice i = .ok (described name (calls ++ [.addChoice i])) := by
  rw [Document.addChoice, branchPins_described h]
  refine congrArg Except.ok (described_of_nodes rfl rfl (List.ext_getElem? fun j => ?_))
  change Document.node? _ j = Document.node? (Document.modifyNode _ _ _) j
  rw [node?_described_snoc rfl, Document.node?_modifyNode, node?_described, Option.map_map]
  -- The pins that are written are those read, so the node must be known to be the one read.
  by_cases hi : i = j
  · subst hi
    simp [h, describedNode, Call.edge?, Call.grown?, wired_snoc, choices_snoc,
      Content.withChoices, morePins_succ]
  · congr 1
    funext content
    simp [hi, describedNode, Call.edge?, Call.grown?, wired_snoc, choices_snoc]

theorem run_of_sound_edge {edge : Edge} (hedge : call.edge? = some edge)
    (h : call.Sound calls) :
    call.run ⟨described name calls, none⟩ = ⟨described name (calls ++ [call]), none⟩ := by
  obtain ⟨hsource, htarget⟩ := h.ends edge hedge
  rw [run_of_edge? hedge, Builder.connect, edit, connect_described hedge hsource htarget]

/-- After a sound call the document is as described, and nothing has failed. -/
theorem run_of_sound (hb : Bounded calls) (h : call.Sound calls) :
    call.run ⟨described name calls, none⟩ = ⟨described name (calls ++ [call]), none⟩ := by
  cases call with
  | defaultStart id =>
    have hnodes : describedNode (calls ++ [.defaultStart id]) = describedNode calls :=
      describedNode_snoc rfl rfl
    simp [Call.run, defaultStart, described, hnodes, added_snoc, Call.content?, Call.start?,
      Call.declared?]
  | declare v =>
    have hnodes : describedNode (calls ++ [.declare v]) = describedNode calls :=
      describedNode_snoc rfl rfl
    simp [Call.run, declare, described, hnodes, added_snoc, Call.content?, Call.start?,
      Call.declared?]
  | add | branch => exact congrArg (mk · none) (described_add hb rfl rfl rfl rfl rfl)
  | connect | chain => exact run_of_sound_edge rfl h
  | addChoice node =>
    obtain ⟨inPins, outPins, hquestion⟩ := h.question node rfl
    rw [run_of_grown? rfl, Builder.addChoice, edit, addChoice_described hquestion]

/-- Sound calls build the document that they describe. -/
theorem after_of_allSound (h : AllSound calls) :
    (new name).after calls = ⟨described name calls, none⟩ := by
  induction calls using List.reverseRecOn with
  | nil => rfl
  | append_singleton before call ih =>
    obtain ⟨hbefore, hcall⟩ := allSound_snoc.mp h
    rw [after_append, ih hbefore]
    exact run_of_sound hbefore.bounded hcall

/-! ## Faulty calls -/

/-- A call that is faulty changes nothing, and what is wrong with it is kept. -/
theorem run_of_faulty (h : call.Faulty calls e) :
    call.run ⟨described name calls, none⟩ = ⟨described name calls, some e⟩ := by
  cases h with
  | outOfRange edge hedge hrange =>
    rw [run_of_edge? hedge, Builder.connect, edit, Document.connect, length_nodes_described,
      if_neg hrange]
    rfl
  | noNode node hnode hmissing =>
    rw [run_of_grown? hnode, Builder.addChoice, edit, Document.addChoice, Document.branchPins,
      node?_described, hmissing]
    rfl
  | notBranch node hnode content hcontent htype =>
    have hpins : (described name calls).branchPins node = .error (.notBranch node content) := by
      rw [Document.branchPins, node?_described, hcontent]
      cases content with
      | branch => exact absurd rfl htype
      | _ => rfl
    rw [run_of_grown? hnode, Builder.addChoice, edit, Document.addChoice, hpins]
    rfl

theorem sound_or_faulty_edge {edge : Edge} (hedge : call.edge? = some edge)
    (hgrown : call.grown? = none) : call.Sound calls ∨ ∃ e, call.Faulty calls e := by
  by_cases hrange : edge.source < (added calls).length ∧ edge.target < (added calls).length
  · refine .inl ⟨fun other hother => ?_, fun node hnode => ?_⟩
    · cases hedge.symm.trans hother
      exact hrange
    · cases hgrown.symm.trans hnode
  · exact .inr ⟨_, .outOfRange edge hedge hrange⟩

/-- Something is wrong with each call that is not sound. -/
theorem sound_or_faulty (calls : List Call) (call : Call) :
    call.Sound calls ∨ ∃ e, call.Faulty calls e := by
  cases call with
  | defaultStart | declare | add | branch => exact .inl ⟨nofun, nofun⟩
  | connect | chain => exact sound_or_faulty_edge rfl rfl
  | addChoice node =>
    cases hnode : (added calls)[node]? with
    | none => exact .inr ⟨_, .noNode node rfl hnode⟩
    | some content =>
      cases content with
      | branch inPins outPins =>
        refine .inl ⟨nofun, fun i hi => ?_⟩
        cases hi
        exact ⟨inPins, outPins, hnode⟩
      | _ => exact .inr ⟨_, .notBranch node rfl _ hnode nofun⟩

/-- The first failure is kept. -/
theorem failure_run {b : Builder} (h : b.failure = some e) (call : Call) :
    (call.run b).failure = some e := by
  have hedit (f : Document → Except EditError Document) : (b.edit f).failure = some e := by
    unfold edit
    split
    · exact h
    · rw [h]
      rfl
  cases call with
  | connect | chain | addChoice => exact hedit _
  | _ => exact h

theorem failure_after {b : Builder} (h : b.failure = some e) (calls : List Call) :
    (b.after calls).failure = some e := by
  induction calls generalizing b with
  | nil => exact h
  | cons call calls ih => exact ih (failure_run h call)

theorem build_of_firstFault (h : FirstFault calls e) :
    ((new name).after calls).build = .error e := by
  obtain ⟨before, call, rest, rfl, hbefore, hcall⟩ := h
  have hfailure : ((new name).after (before ++ call :: rest)).failure = some e := by
    rw [after_append, after_of_allSound hbefore]
    refine failure_after ?_ rest
    rw [run_of_faulty hcall]
  rw [build, hfailure]

theorem allSound_or_firstFault (calls : List Call) :
    AllSound calls ∨ ∃ e, FirstFault calls e := by
  induction calls using List.reverseRecOn with
  | nil => exact .inl allSound_nil
  | append_singleton before call ih =>
    rcases ih with hbefore | ⟨e, earlier, faulty, rest, rfl, hearlier, hfaulty⟩
    · rcases sound_or_faulty before call with hcall | ⟨e, hcall⟩
      · exact .inl (allSound_snoc.mpr ⟨hbefore, hcall⟩)
      · exact .inr ⟨e, before, call, [], rfl, hbefore, hcall⟩
    · exact .inr ⟨e, earlier, faulty, rest ++ [call], by simp, hearlier, hfaulty⟩

theorem build_eq_ok_iff {d : Document} :
    ((new name).after calls).build = .ok d ↔ AllSound calls ∧ described name calls = d := by
  constructor
  · intro h
    rcases allSound_or_firstFault calls with hall | ⟨e, hfault⟩
    · rw [after_of_allSound hall] at h
      exact ⟨hall, Except.ok.inj h⟩
    · cases h.symm.trans (build_of_firstFault hfault)
  · rintro ⟨hall, rfl⟩
    rw [after_of_allSound hall]
    rfl

theorem build_eq_error_iff :
    ((new name).after calls).build = .error e ↔ FirstFault calls e := by
  refine ⟨fun h => ?_, build_of_firstFault⟩
  rcases allSound_or_firstFault calls with hall | ⟨e', hfault⟩
  · cases h.symm.trans (build_eq_ok_iff.mpr ⟨hall, rfl⟩)
  · cases h.symm.trans (build_of_firstFault hfault)
    exact hfault

/-! ## Sums that are checked -/

/-- The edit that a call tries. -/
def Call.edit? : Call → Option Edit
  | connect source sourceSlot target targetSlot =>
    some (.connect source sourceSlot target targetSlot)
  | chain source target => some (.connect source 0 target 0)
  | addChoice node => some (.addChoice node)
  | _ => none

/-- Tries an edit where sums are checked. A builder that comes to one that does not fit is lost. -/
def editChecked (b : Builder) (edit : Edit) : Option Builder :=
  match (edit.inPlace true).exec b.document with
  | (.ok (), d) => some { b with document := d }
  | (.error (.refused e), d) => some ⟨d, b.failure.or (some e)⟩
  | (.error .overflow, _) => none

/-- What a builder is after a call where sums are checked. -/
def Call.runChecked (b : Builder) (call : Call) : Option Builder :=
  match call.edit? with
  | some edit => b.editChecked edit
  | none => some (call.run b)

/-- What a builder is after some calls where sums are checked. -/
def afterChecked (b : Builder) (calls : List Call) : Option Builder :=
  calls.foldlM Call.runChecked b

/-- Whether a call comes to a sum that does not fit. -/
def Call.Overflows (b : Builder) (call : Call) : Prop :=
  ∃ edit, call.edit? = some edit ∧ edit.Overflows b.document

/-- Whether some call comes to a sum that does not fit. -/
def Overflow (b : Builder) (calls : List Call) : Prop :=
  ∃ before call rest, calls = before ++ call :: rest ∧ call.Overflows (b.after before)

theorem run_of_edit? {edit : Edit} (h : call.edit? = some edit) (b : Builder) :
    call.run b = b.edit edit.run := by
  cases call with
  | connect | chain | addChoice =>
    cases h
    rfl
  | _ => cases h

/-- Where a call overflows, nothing comes of the builder. -/
theorem runChecked_of_overflows {b : Builder} (h : call.Overflows b) :
    call.runChecked b = none := by
  obtain ⟨edit, hedit, hoverflow⟩ := h
  rw [Call.runChecked, hedit]
  dsimp only
  rw [editChecked, (edit.exec_inPlace_checked b.document).1 hoverflow]

/-- Any other call does what it does where sums are not checked. -/
theorem runChecked_of_fits {b : Builder} (h : ¬call.Overflows b) :
    call.runChecked b = some (call.run b) := by
  unfold Call.runChecked
  cases hedit : call.edit? with
  | none => rfl
  | some edit =>
    have hfits : ¬edit.Overflows b.document := fun hoverflow => h ⟨edit, hedit, hoverflow⟩
    dsimp only
    rw [run_of_edit? hedit, editChecked, (edit.exec_inPlace_checked b.document).2 hfits,
      edit.exec_inPlace, Builder.edit]
    cases edit.run b.document with
    | ok d => rfl
    | error e => rfl

theorem overflow_cons {b : Builder} :
    Overflow b (call :: calls) ↔ call.Overflows b ∨ Overflow (call.run b) calls := by
  constructor
  · rintro ⟨before, other, rest, hcalls, hother⟩
    cases before with
    | nil =>
      cases hcalls
      exact .inl hother
    | cons first before =>
      cases hcalls
      exact .inr ⟨before, other, rest, rfl, hother⟩
  · rintro (hcall | ⟨before, other, rest, rfl, hother⟩)
    · exact ⟨[], call, calls, rfl, hcall⟩
    · exact ⟨call :: before, other, rest, rfl, hother⟩

/-- Calls where sums are checked come to the same as where they are not, unless one of them
overflows. -/
theorem afterChecked_eq (b : Builder) (calls : List Call) :
    (Overflow b calls ∧ b.afterChecked calls = none) ∨
      (¬Overflow b calls ∧ b.afterChecked calls = some (b.after calls)) := by
  induction calls generalizing b with
  | nil => exact .inr ⟨by rintro ⟨before, call, rest, h, -⟩; simp at h, rfl⟩
  | cons call calls ih =>
    rw [overflow_cons, afterChecked, List.foldlM_cons]
    by_cases hcall : call.Overflows b
    · rw [runChecked_of_overflows hcall]
      exact .inl ⟨.inl hcall, rfl⟩
    · rw [runChecked_of_fits hcall, or_iff_right hcall]
      exact ih (call.run b)

theorem overflow_of_snoc {b : Builder} (h : Overflow b calls ∨ call.Overflows (b.after calls)) :
    Overflow b (calls ++ [call]) := by
  rcases h with ⟨before, other, rest, rfl, hother⟩ | hcall
  · exact ⟨before, other, rest ++ [call], by simp, hother⟩
  · exact ⟨calls, call, [], rfl, hcall⟩

/-- A choice that is added without an overflow leaves room for its pins. -/
theorem fits_of_not_overflows {b : Builder} (h : ¬call.Overflows b) (hgrown : call.grown? = some i)
    {inPins outPins : Nat} (hpins : b.document.branchPins i = .ok (inPins, outPins)) :
    inPins + 1 < indexLimit ∧ outPins + 1 < indexLimit := by
  have hfull : ¬(indexLimit ≤ inPins + 1 ∨ indexLimit ≤ outPins + 1) := by
    intro hfull
    cases call with
    | addChoice node =>
      cases hgrown
      exact h ⟨_, rfl, inPins, outPins, hpins, hfull⟩
    | _ => cases hgrown
  omega

/-- A question that has been given more choices without an overflow has as many more pins. -/
theorem choices_fit (hall : AllSound calls) (h : ¬Overflow (new name) calls) {inPins outPins : Nat}
    (hquestion : (added calls)[i]? = some (.branch inPins outPins)) :
    choices calls i = 0 ∨
      inPins + choices calls i < indexLimit ∧ outPins + choices calls i < indexLimit := by
  induction calls using List.reverseRecOn with
  | nil => exact .inl rfl
  | append_singleton before call ih =>
    obtain ⟨hbefore, hcall⟩ := allSound_snoc.mp hall
    have hfits : ¬Overflow (new name) before := fun hover => h (overflow_of_snoc (.inl hover))
    have hlast : ¬call.Overflows (⟨described name before, none⟩ : Builder) := by
      rw [← after_of_allSound hbefore]
      exact fun hover => h (overflow_of_snoc (.inr hover))
    rw [choices_snoc]
    rcases Nat.lt_or_ge i (added before).length with hi | hi
    · rw [getElem?_added_snoc hi] at hquestion
      by_cases hgrown : call.grown? = some i
      · obtain ⟨hin, hout⟩ := fits_of_not_overflows hlast hgrown (branchPins_described hquestion)
        rw [hgrown, Option.toList_some, List.count_singleton_self]
        rcases ih hbefore hfits hquestion with hzero | ⟨hin', hout'⟩
        · rw [hzero] at hin hout ⊢
          exact .inr ⟨hin, hout⟩
        · rw [morePins_of_lt hin'] at hin
          rw [morePins_of_lt hout'] at hout
          exact .inr ⟨hin, hout⟩
      · rw [List.count_eq_zero.mpr fun hmem => hgrown (Option.mem_toList.mp hmem)]
        exact ih hbefore hfits hquestion
    · -- a choice can only be added to a question that is there
      have hgrown : call.grown? ≠ some i := by
        intro hgrown
        obtain ⟨_, _, hold⟩ := hcall.question i hgrown
        exact absurd (List.getElem?_eq_some_iff.mp hold).1 (Nat.not_lt.mpr hi)
      rw [List.count_eq_zero.mpr fun hmem => hgrown (Option.mem_toList.mp hmem)]
      exact .inl (hbefore.bounded.grown i hi)

/-- Without an overflow a question has all the pins that it was given. -/
theorem withChoices_of_not_overflow (hall : AllSound calls) (h : ¬Overflow (new name) calls)
    {inPins outPins : Nat} (hquestion : (added calls)[i]? = some (.branch inPins outPins)) :
    (Content.branch inPins outPins).withChoices (choices calls i) =
      .branch (inPins + choices calls i) (outPins + choices calls i) := by
  rw [Content.withChoices]
  rcases choices_fit hall h hquestion with hzero | ⟨hin, hout⟩
  · rw [hzero]
    rfl
  · rw [morePins_of_lt hin, morePins_of_lt hout]

/-- One more choice for a question that has all the ways in there can be. -/
example :
    let calls := [.add (.branch 18446744073709551615 2), .addChoice 0]
    (new "full").afterChecked calls = none ∧
      ((new "full").after calls).document.nodes.map (·.content) = [.branch 0 3] :=
  ⟨rfl, rfl⟩

end Builder

end DialogueTree
