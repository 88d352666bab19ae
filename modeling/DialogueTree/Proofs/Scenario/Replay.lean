import DialogueTree.Proofs.Disk.TreeFiles
import DialogueTree.Proofs.Format.Case
import DialogueTree.Proofs.Scenario.Run
import DialogueTree.Scenario.Files

/-!
# Recorded cases replayed

A case that has been run and is written down with events to expect passes the check exactly if
these are the events that it has recorded. Nothing is asked of its answers: the run has taken all
of them, so they can be written and read.

Results:
* `Scenario.library_fst`, `Scenario.run_fst`: where a record comes from.
* `Scenario.readCase_fst`: the case in a file.
* `Scenario.check_eq_ok`: the check of a case that has been run.
-/

namespace DialogueTree

theorem Library.documents_start (l : Library) (tree : Option String) (id : Option Int32) :
    (l.start tree id).2.library.documents = l.documents := by
  unfold start
  split
  · rfl
  · exact Session.documents_load _ _ _

namespace Scenario

open FileTree

variable {t : FileTree} {dir file : Path} {c : TestCase} {l : Library} {r : RunReport}

/-! ## Libraries and records -/

/-- A library is made up of the tree files and the shared variables. -/
theorem library_fst (t : FileTree) (dir : Path) : (t.exec (library dir)).1 = (do
    let trees ← (t.trees dir).mapError .ofFiles
    let store ← (t.globals dir).mapError .ofFiles
    (Library.ofSources trees store).mapError fun e => .opening (.library e)) := by
  unfold library
  rw [((reads_readTrees dir).adapt ScenarioError.ofFiles).bind_fst]
  congr 1
  funext trees
  rw [((reads_readGlobals dir).adapt ScenarioError.ofFiles).bind_fst]
  congr 1
  funext store
  cases Library.ofSources trees store <;> rfl

theorem library_eq_ok (h : (t.exec (library dir)).1 = .ok l) : ∃ trees store,
    t.trees dir = .ok trees ∧ t.globals dir = .ok store ∧
      Library.ofSources trees store = .ok l := by
  rw [library_fst] at h
  obtain ⟨trees, htrees, h⟩ := Outcome.bind_eq_ok.mp h
  obtain ⟨store, hstore, h⟩ := Outcome.bind_eq_ok.mp h
  exact ⟨trees, store, Outcome.mapError_eq_ok.mp htrees, Outcome.mapError_eq_ok.mp hstore,
    Outcome.mapError_eq_ok.mp h⟩

theorem reads_library (dir : Path) :
    Reads (library dir : ExceptT ScenarioError (StateM FileTree) Library) := by
  unfold library
  refine ((reads_readTrees dir).adapt ScenarioError.ofFiles).bind fun trees => ?_
  refine ((reads_readGlobals dir).adapt ScenarioError.ofFiles).bind fun store => ?_
  cases Library.ofSources trees store with
  | ok l => exact reads_pure l
  | error e => exact reads_throw _

theorem reads_run (dir : Path) (c : TestCase) :
    Reads (run dir c : ExceptT ScenarioError (StateM FileTree) RunReport) :=
  (reads_library dir).bind fun _ _ => rfl

/-- A case records what it does with the library of the directory. -/
theorem run_fst (t : FileTree) (dir : Path) (c : TestCase) :
    (t.exec (run dir c)).1 = (t.exec (library dir)).1 >>= c.run :=
  (reads_library dir).bind_fst _

/-- What is recorded does not depend on what is expected. -/
theorem run_expecting (dir : Path) (c : TestCase) (expected : List Event) :
    (run dir { c with expected := expected } : ExceptT ScenarioError (StateM FileTree) RunReport) =
      run dir c := rfl

/-- The answers of a case that has been run are of 64 bits. -/
theorem choices_lt_of_run (h : (t.exec (run dir c)).1 = .ok r) :
    ∀ choice ∈ c.choices, choice < indexLimit := by
  rw [run_fst] at h
  obtain ⟨l, hl, hrun⟩ := Outcome.bind_eq_ok.mp h
  obtain ⟨trees, store, -, -, hl⟩ := library_eq_ok hl
  obtain ⟨report, s, passed, last, hstart, hcomes, -⟩ := TestCase.run_eq_ok.mp hrun
  have hdocuments := l.documents_start c.tree c.start
  rw [hstart] at hdocuments
  refine hcomes.choices_lt ?_ (by simp)
  rw [hdocuments]
  exact Library.forall_documents hl fun _ _ _ => Document.hasIndexedExits_of_parse

/-! ## Checks -/

theorem reads_readCase (file : Path) :
    Reads (readCase file : ExceptT ScenarioError (StateM FileTree) TestCase) := by
  unfold readCase
  refine ((reads_readFile file).adapt ScenarioError.ofFiles).bind fun text => ?_
  cases TestCase.parse? text with
  | none => exact reads_throw _
  | some c =>
    dsimp only
    split
    · exact reads_pure c
    · exact reads_throw _

/-- The case in a file whose text gives one. -/
theorem readCase_fst {text : String} (htext : t.readText? file = some text)
    (hcase : TestCase.parse? text = some c) (hschema : c.schema = caseSchema) :
    (t.exec (readCase file)).1 = .ok c := by
  have hread : (t.exec (Disk.readFile file)).1 = .ok text := by
    unfold Disk.readFile
    rw [exec_bind, exec_readText?, htext]
    rfl
  unfold readCase
  rw [((reads_readFile file).adapt ScenarioError.ofFiles).bind_fst, exec_adapt]
  dsimp only
  rw [hread, Outcome.mapError_ok, Outcome.bind_ok, hcase]
  dsimp only
  rw [if_pos hschema]
  rfl

/-- A case that has been run, and is written down with events to expect, passes the check exactly
if it has recorded these events. -/
theorem check_eq_ok {expected : List Event} {j : Json} {sp : Json.Spacing}
    (hrun : (t.exec (run dir c)).1 = .ok r) (hschema : c.schema = caseSchema)
    (hwritten : TestCase.Written { c with expected := expected } j) (hsp : sp.IsBlank)
    (hfile : t.readText? file = some (String.ofList (j.chars sp 0))) :
    (t.exec (check dir file)).1 = .ok () ↔ expected = r.events := by
  have hcase : TestCase.parse? (String.ofList (j.chars sp 0)) =
      some { c with expected := expected } :=
    TestCase.parse?_of_written (c := { c with expected := expected }) (choices_lt_of_run hrun)
      hwritten hsp
  unfold check
  rw [(reads_readCase file).bind_fst, readCase_fst hfile hcase hschema, Outcome.bind_ok,
    (reads_run dir _).bind_fst, run_expecting, hrun, Outcome.bind_ok, exec_outcome]
  exact TestCase.compare_eq_ok

/-! ## An inn -/

/-- A tree with a line, a question, and an answer to which someone else replies. -/
def inn : Document :=
  { name := "inn"
    nodes :=
      [⟨0, .info { name := "Host" }, [], []⟩,
        ⟨1, .start 0, [], [⟨2, 0⟩]⟩,
        ⟨2, .dialogue "Welcome." none, [⟨1, 0⟩], [⟨3, 0⟩]⟩,
        ⟨3, .dialogue "Hungry?" none, [⟨2, 0⟩], [⟨4, 0⟩]⟩,
        ⟨4, .branch 2 1, [⟨3, 0⟩, ⟨5, 1⟩], [⟨6, 0⟩]⟩,
        ⟨5, .dialogue "Yes" none, [], [⟨4, 1⟩]⟩,
        ⟨6, .dialogue "Stew." (some { name := "Cook" }), [⟨4, 0⟩], [⟨7, 0⟩]⟩,
        ⟨7, .finish, [⟨6, 0⟩], []⟩] }

/-- A guest who is hungry. -/
def hungry : TestCase := { choices := [0] }

/-- What the guest is told. -/
def meal : List Event :=
  [.dialogue (some "Host") "Welcome.", .branch none "Hungry?" ["Yes"],
    .dialogue (some "Cook") "Stew.", .finish]

/-- The case as it is written down with events to expect. -/
def mealExpecting (expected : List Event) : String :=
  ({ hungry with expected := expected } : TestCase).toJson.pretty

/-- A directory with this tree, the case with its own events, and with the first speaker left
out. -/
def innFiles : FileTree :=
  { entries :=
      [(["t"], .directory),
        (["t", "inn.tree.json"], .file (some inn.toJson.pretty)),
        (["meal.json"], .file (some (mealExpecting meal))),
        (["mute.json"], .file (some (mealExpecting (.dialogue none "Welcome." :: meal.tail))))] }

/-- The way to the directory and to its tree. -/
theorem paths_inn : innFiles.filesBelow "t" = ["inn.tree.json"] ∧
    (Path.below "t" "inn.tree.json").endsWith treeFileEnding = true ∧
    innFiles.find? (Path.below "t" "inn.tree.json") = some ["t", "inn.tree.json"] ∧
    innFiles.kind? (Path.join "t" globalsFileName) = none := by
  decide +kernel

/-- The texts of this directory. -/
def innSources : Sources := .insert {} (Path.withSlashes "inn.tree.json") inn.toJson.pretty

theorem trees_inn : innFiles.trees "t" = .ok innSources ∧ innFiles.globals "t" = .ok none := by
  obtain ⟨hfiles, hending, hfind, hglobals⟩ := paths_inn
  exact ⟨trees_of_filesBelow hfiles hending (readText?_of_find? hfind rfl),
    globals_of_kind? hglobals⟩

theorem library_inn : Library.ofSources innSources none = .ok ⟨[.ofDocument inn], {}⟩ := by
  have hread : Document.ofJson? inn.toJson = some inn := by decide +kernel
  exact Library.ofSources_insert (Document.parse_pretty hread _)

theorem run_hungry : (hungry.run ⟨[.ofDocument inn], {}⟩).toOption = some ⟨meal, 1, 4⟩ := by
  decide +kernel

theorem run_inn : (innFiles.exec (run "t" hungry)).1 = .ok ⟨meal, 1, 4⟩ := by
  obtain ⟨htrees, hglobals⟩ := trees_inn
  have hlibrary : (innFiles.exec (library "t")).1 = .ok ⟨[.ofDocument inn], {}⟩ := by
    rw [library_fst, htrees, hglobals, Outcome.mapError_ok, Outcome.bind_ok, Outcome.mapError_ok,
      Outcome.bind_ok, library_inn, Outcome.mapError_ok]
  rw [run_fst, hlibrary, Outcome.bind_ok]
  exact Outcome.toOption_eq_some.mp run_hungry

/-- The case passes with its own events, and fails with the first speaker left out. -/
theorem inn_checked : (innFiles.exec (check "t" "meal.json")).1 = .ok () ∧
    (innFiles.exec (check "t" "mute.json")).1 ≠ .ok () := by
  have hfind : innFiles.find? "meal.json" = some ["meal.json"] ∧
      innFiles.find? "mute.json" = some ["mute.json"] := by decide +kernel
  constructor
  · exact (check_eq_ok run_inn rfl (TestCase.written_toJson _) Json.Spacing.isBlank_indented
      (readText?_of_find? hfind.1 rfl)).mpr rfl
  · intro h
    have hsame := (check_eq_ok run_inn rfl (TestCase.written_toJson _)
      Json.Spacing.isBlank_indented (readText?_of_find? hfind.2 rfl)).mp h
    exact absurd hsame (by decide)

end Scenario

end DialogueTree
