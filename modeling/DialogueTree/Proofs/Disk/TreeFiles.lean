import DialogueTree.Proofs.Disk.Programs

/-!
# Tree files read

The texts of a library that are read from a directory of a file tree: those of its tree files, and
the one of the shared variables if there are any.

Results:
* `trees_of_filesBelow`: a directory with one file in it.
* `globals_of_kind?`: a directory without shared variables.
* `sameTexts_of_filesBelow`: two paths that lead to the same texts.
-/

namespace DialogueTree.FileTree

variable {t : FileTree} {dir dir' : Path}

/-- The trees that are read from a directory. -/
def trees (t : FileTree) (dir : Path) : Except TreeFilesError Sources :=
  (t.exec (Disk.readTrees dir)).1

/-- The text of the shared variables that is read from a directory. -/
def globals (t : FileTree) (dir : Path) : Except TreeFilesError (Option String) :=
  (t.exec (Disk.readGlobals dir)).1

/-! ## What is read -/

theorem exec_readFile_fst (t : FileTree) (p : Path) : (t.exec (Disk.readFile p)).1 =
    match t.readText? p with
    | some text => .ok text
    | none => .error (.unreadable p) := by
  unfold Disk.readFile
  rw [exec_bind, exec_readText?]
  cases t.readText? p <;> rfl

theorem exec_readAll_cons_fst (t : FileTree) (dir relative : Path) (rest : List Path)
    (found : Sources) : (t.exec (Disk.readAll dir (relative :: rest) found)).1 = (do
      let text ← (t.exec (Disk.readFile (Path.below dir relative))).1
      (t.exec (Disk.readAll dir rest (found.insert (Path.withSlashes relative) text))).1) :=
  (reads_readFile _).bind_fst _

/-- The tree files among the files below a directory. -/
def treeFiles (t : FileTree) (dir : Path) : List Path :=
  (t.filesBelow dir).filter fun relative => (Path.below dir relative).endsWith treeFileEnding

theorem trees_eq (t : FileTree) (dir : Path) : t.trees dir =
    if t.treeFiles dir = [] then .error (.none dir)
    else (t.exec (Disk.readAll dir (t.treeFiles dir) {})).1 := by
  have hfiles : t.exec (Disk.treeFiles dir) =
      ((.ok (t.treeFiles dir) : Except TreeFilesError _), t) := rfl
  unfold trees Disk.readTrees
  rw [exec_bind, hfiles]
  cases t.treeFiles dir <;> rfl

/-- The trees of a directory with one file in it. -/
theorem trees_of_filesBelow {relative : Path} {text : String}
    (hfiles : t.filesBelow dir = [relative])
    (hending : (Path.below dir relative).endsWith treeFileEnding = true)
    (htext : t.readText? (Path.below dir relative) = some text) :
    t.trees dir = .ok (Sources.insert {} (Path.withSlashes relative) text) := by
  have hfilter : t.treeFiles dir = [relative] := by
    unfold treeFiles
    rw [hfiles, List.filter_cons, if_pos hending, List.filter_nil]
  rw [trees_eq, hfilter, if_neg (List.cons_ne_nil _ _), exec_readAll_cons_fst, exec_readFile_fst,
    htext]
  rfl

theorem globals_eq (t : FileTree) (dir : Path) : t.globals dir =
    if t.kind? (Path.join dir globalsFileName) = some .file then
      some <$> (t.exec (Disk.readFile (Path.join dir globalsFileName))).1
    else .ok none := by
  unfold globals Disk.readGlobals
  rw [exec_bind, exec_isFile]
  dsimp only
  by_cases h : t.kind? (Path.join dir globalsFileName) = some .file
  · rw [if_pos h, if_pos (beq_iff_eq.mpr h), exec_map]
  · rw [if_neg h, if_neg (mt beq_iff_eq.mp h)]
    rfl

/-- There are no shared variables without a file for them. -/
theorem globals_of_kind? (h : t.kind? (Path.join dir globalsFileName) = none) :
    t.globals dir = .ok none := by
  rw [globals_eq, h]
  rfl

/-! ## Two file trees -/

/-- Whether a directory reads the same on two file trees. -/
def SameTrees (dir : Path) (t t' : FileTree) : Prop :=
  t'.kind? dir = t.kind? dir ∧ t'.trees dir = t.trees dir

/-! ## Two paths -/

/-- Whether the same texts are read from two paths, or from neither of them. -/
structure SameTexts (t : FileTree) (dir dir' : Path) : Prop where
  trees : (t.trees dir).toOption = (t.trees dir').toOption
  globals : (t.globals dir).toOption = (t.globals dir').toOption

theorem SameTexts.trees_eq_ok {trees : Sources} (h : t.SameTexts dir dir')
    (htrees : t.trees dir' = .ok trees) : t.trees dir = .ok trees :=
  Outcome.toOption_eq_some.mp (h.trees.trans (Outcome.toOption_eq_some.mpr htrees))

theorem SameTexts.globals_eq_ok {store : Option String} (h : t.SameTexts dir dir')
    (hstore : t.globals dir' = .ok store) : t.globals dir = .ok store :=
  Outcome.toOption_eq_some.mp (h.globals.trans (Outcome.toOption_eq_some.mpr hstore))

theorem readAll_toOption {files : List Path}
    (h : ∀ seen ∈ files, t.readText? (Path.below dir seen) = t.readText? (Path.below dir' seen))
    (found : Sources) : (t.exec (Disk.readAll dir files found)).1.toOption =
      (t.exec (Disk.readAll dir' files found)).1.toOption := by
  induction files generalizing found with
  | nil => rfl
  | cons seen rest ih =>
    have hrest := ih fun seen' hseen => h seen' (List.mem_cons_of_mem _ hseen)
    rw [exec_readAll_cons_fst, exec_readAll_cons_fst, exec_readFile_fst, exec_readFile_fst,
      h seen List.mem_cons_self]
    cases t.readText? (Path.below dir' seen) with
    | none => rfl
    | some text => exact hrest _

/-- Two paths with the same files below them, which have the same texts. -/
theorem sameTexts_of_filesBelow (hfiles : t.filesBelow dir = t.filesBelow dir')
    (hending : ∀ seen ∈ t.filesBelow dir', (Path.below dir seen).endsWith treeFileEnding =
      (Path.below dir' seen).endsWith treeFileEnding)
    (htext : ∀ seen ∈ t.filesBelow dir', t.readText? (Path.below dir seen) =
      t.readText? (Path.below dir' seen))
    (hfind : t.find? (Path.join dir globalsFileName) = t.find? (Path.join dir' globalsFileName)) :
    t.SameTexts dir dir' where
  trees := by
    have htreeFiles : t.treeFiles dir = t.treeFiles dir' := by
      unfold treeFiles
      rw [hfiles]
      exact List.filter_congr hending
    rw [trees_eq, trees_eq, htreeFiles]
    by_cases hnil : t.treeFiles dir' = []
    · rw [if_pos hnil, if_pos hnil]
      rfl
    · rw [if_neg hnil, if_neg hnil]
      exact readAll_toOption (fun seen hseen => htext seen (List.mem_filter.mp hseen).1) _
  globals := by
    have hkind : t.kind? (Path.join dir globalsFileName) =
        t.kind? (Path.join dir' globalsFileName) := by
      unfold kind?
      rw [hfind]
    have hread : t.readText? (Path.join dir globalsFileName) =
        t.readText? (Path.join dir' globalsFileName) := by
      unfold readText?
      rw [hfind]
    rw [globals_eq, globals_eq, hkind, exec_readFile_fst, exec_readFile_fst, hread]
    split
    · cases t.readText? (Path.join dir' globalsFileName) <;> rfl
    · rfl

end DialogueTree.FileTree
