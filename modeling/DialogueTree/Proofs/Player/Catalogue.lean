import DialogueTree.Player.Catalogue
import DialogueTree.Proofs.Disk.Absolute
import DialogueTree.Proofs.Library.Sources

/-!
# Catalogues by directory and by id

The id that a directory gives its catalogue leads back to the directory, whatever the current one
is, and as long as the directory reads the same, to the same trees.

Results:
* `directoryOfId?_directoryId`: the directory of an id.
* `exec_ofDirectory`, `exec_ofDirectory_eq_ok`, `exec_ofId`: the two ways to the texts of a
  directory.
* `library_of_trees`: the library that is found by id.
-/

namespace DialogueTree

namespace Catalogue

open FileTree

variable {t : FileTree} {dir root : Path} {c : Catalogue}

theorem directoryOfId?_directoryId (dir : Path) : directoryOfId? (directoryId dir) = some dir := by
  unfold directoryOfId? directoryId
  rw [String.toList_append, if_pos (List.isPrefixOf_iff_prefix.mpr (List.prefix_append _ _)),
    List.drop_left, String.ofList_toList]

/-! ## Reading a directory -/

theorem exec_resolve (t : FileTree) (dir : Path) :
    t.exec (resolve dir) = match t.kind? (t.absolute dir) with
      | some .directory => (.ok (t.absolute dir), t)
      | some .file => (.error (.notDirectory (t.absolute dir)), t)
      | none => (.error (.directoryNotFound (t.absolute dir)), t) := by
  unfold resolve
  rw [exec_bind, exec_workingDirectory]
  dsimp only
  rw [exec_bind, exec_kind?]
  dsimp only
  unfold absolute
  split <;> simp_all

theorem exec_readTrees (t : FileTree) (dir : Path) :
    t.exec ((Disk.readTrees dir).adapt errorOfFiles) =
      ((t.trees dir).mapError errorOfFiles, t) := by
  rw [exec_adapt, (reads_readTrees dir).exec_eq t]
  rfl

theorem reads_resolve (dir : Path) :
    Reads (resolve dir : ExceptT PlayerError (StateM FileTree) Path) := by
  intro t
  rw [exec_resolve]
  split <;> rfl

theorem reads_readNamedGlobals (p : Path) :
    Reads (readNamedGlobals p : ExceptT PlayerError (StateM FileTree) String) := by
  unfold readNamedGlobals
  refine Reads.bind (fun _ => rfl) fun isFile => ?_
  cases isFile with
  | true => exact (reads_readFile p).adapt errorOfFiles
  | false => exact reads_throw _

theorem reads_ofDirectory (dir : Path) (globals : Option Path) :
    Reads (ofDirectory dir globals : ExceptT PlayerError (StateM FileTree) Catalogue) := by
  unfold ofDirectory
  refine (reads_resolve dir).bind fun root => ?_
  refine ((reads_readTrees root).adapt errorOfFiles).bind fun trees => ?_
  cases globals with
  | none => exact ((reads_readGlobals root).adapt errorOfFiles).bind fun _ => reads_pure _
  | some p => exact ((reads_readNamedGlobals p).map some).bind fun _ => reads_pure _

theorem reads_ofId (id : String) :
    Reads (ofId id : ExceptT PlayerError (StateM FileTree) Catalogue) := by
  unfold ofId
  cases directoryOfId? id with
  | none => exact reads_throw _
  | some dir =>
    exact (reads_resolve dir).bind fun root =>
      ((reads_readTrees root).adapt errorOfFiles).bind fun _ => reads_pure _

theorem resolve_eq_ok (h : (t.exec (resolve dir)).1 = .ok root) :
    t.kind? (t.absolute dir) = some .directory ∧ root = t.absolute dir := by
  rw [exec_resolve] at h
  split at h
  next hkind =>
    cases h
    exact ⟨hkind, rfl⟩
  · cases h
  · cases h

/-- What a catalogue that has been read from a directory comes from. -/
theorem exec_ofDirectory_eq_ok {globals : Option Path}
    (h : (t.exec (ofDirectory dir globals)).1 = .ok c) :
    t.kind? (t.absolute dir) = some .directory ∧ t.trees (t.absolute dir) = .ok c.trees ∧
      c.id = directoryId (t.absolute dir) := by
  unfold ofDirectory at h
  obtain ⟨root, hroot, h⟩ := (reads_resolve dir).bind_eq_ok h
  obtain ⟨hkind, rfl⟩ := resolve_eq_ok hroot
  obtain ⟨trees, htrees, h⟩ := ((reads_readTrees _).adapt errorOfFiles).bind_eq_ok h
  have hread : t.trees (t.absolute dir) = .ok trees := by
    rw [exec_readTrees] at htrees
    exact Outcome.mapError_eq_ok.mp htrees
  refine ⟨hkind, ?_⟩
  cases globals with
  | none =>
    obtain ⟨store, -, h⟩ := ((reads_readGlobals _).adapt errorOfFiles).bind_eq_ok h
    cases h
    exact ⟨hread, rfl⟩
  | some p =>
    obtain ⟨store, -, h⟩ := ((reads_readNamedGlobals p).map some).bind_eq_ok h
    cases h
    exact ⟨hread, rfl⟩

/-- What is read from a directory, with the shared variables from inside it. -/
theorem exec_ofDirectory {trees : Sources} {store : Option String}
    (hkind : t.kind? (t.absolute dir) = some .directory)
    (htrees : t.trees (t.absolute dir) = .ok trees)
    (hglobals : t.globals (t.absolute dir) = .ok store) :
    t.exec (ofDirectory dir none) = (.ok ⟨directoryId (t.absolute dir),
      directoryTitle (t.absolute dir), trees, store⟩, t) := by
  have hread : t.exec (Disk.readGlobals (t.absolute dir)) =
      ((.ok store : Except TreeFilesError _), t) := by
    rw [(reads_readGlobals _).exec_eq t]
    exact Prod.ext hglobals rfl
  unfold ofDirectory
  rw [exec_bind, exec_resolve, hkind]
  dsimp only
  rw [exec_bind, exec_readTrees, htrees, Outcome.mapError_ok]
  dsimp only
  rw [exec_bind, exec_adapt, hread]
  rfl

/-- The catalogue that the id of a directory names. -/
theorem exec_ofId {trees : Sources} (habsolute : Path.isAbsolute root = true)
    (hkind : t.kind? root = some .directory) (htrees : t.trees root = .ok trees) :
    t.exec (ofId (directoryId root)) =
      (.ok ⟨directoryId root, "Trees " ++ root, trees, none⟩, t) := by
  have hroot : t.absolute root = root := Path.join_of_isAbsolute _ habsolute
  unfold ofId
  rw [directoryOfId?_directoryId]
  dsimp only
  rw [exec_bind, exec_resolve, hroot, hkind]
  dsimp only
  rw [exec_bind, exec_readTrees, htrees]
  rfl

/-! ## Libraries -/

theorem library_eq_ok {l : Library} (h : c.library = .ok l) :
    Library.ofSources c.trees c.globals = .ok l := by
  unfold library at h
  exact Outcome.mapError_eq_ok.mp h

/-- The library that is found by id has the same trees, and no shared variables yet. -/
theorem library_of_trees {l : Library} (h : c.library = .ok l) (id title : String) :
    library ⟨id, title, c.trees, none⟩ = .ok (l.withGlobals {}) := by
  rw [library, Library.ofSources_none (library_eq_ok h)]
  rfl

end Catalogue

end DialogueTree
