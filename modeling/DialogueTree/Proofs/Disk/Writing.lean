import DialogueTree.Proofs.Disk.FileTree

/-!
# What writing a file changes

A file is written in a directory that is made if it is not there, together with all those that it
lies in. Nothing else changes: what stands anywhere else stays as it is, and where nothing stands
only the directories on the way to the file are new.

Results:
* `FileTree.makeAll_eq_true`, `FileTree.makeParent_eq_true`: the directories that are made.
* `FileTree.saves_of_write?`: the file that is written then.
-/

namespace DialogueTree.FileTree

variable {t t' after : FileTree} {p : Path} {text : String}

/-- The locations that steps lead through from a location. -/
def stations : Location → List String → List Location
  | _, [] => []
  | l, step :: rest => next l step :: stations (next l step) rest

/-- The directories on the way to a path, but for the one where it starts. -/
def parents (t : FileTree) (p : Path) : List Location :=
  stations (t.base (Path.parent p)) (Path.steps (Path.parent p))

/-- Whether a file tree differs from another one by a text in the file at a location, to which a
path leads, and by the directories on the way there. -/
structure SavesAt (t : FileTree) (p : Path) (l : Location) (text : String)
    (after : FileTree) : Prop where
  start : after.start = t.start
  find? : after.find? p = some l
  file : after.at? l = some (.file (some text))
  /-- The text is in no directory's place. -/
  isDirectoryAt : t.isDirectoryAt l = false
  /-- What stood anywhere else is still there. -/
  kept : ∀ l', l' ≠ l → t.at? l' ≠ none → after.at? l' = t.at? l'
  /-- Where nothing stood there is nothing but a directory on the way. -/
  made : ∀ l', l' ≠ l → t.at? l' = none →
    after.at? l' = if l' ∈ t.parents p then some .directory else none

/-- Whether a file tree differs from another one by a text in the file at a path, and by the
directories on the way there. -/
def Saves (t : FileTree) (p : Path) (text : String) (after : FileTree) : Prop :=
  ∃ l, t.SavesAt p l text after

/-- Whether every text can be written to a path, once the directory that it lies in has been
made. -/
def Accepts (t : FileTree) (p : Path) : Prop :=
  ∀ text, ∃ t' after, t.makeParent p = (true, t') ∧ t'.write? p text = some after

/-! ## Directories -/

/-- All stations are directories once they have been made, and what stood there was one. -/
theorem makeAll_eq_true {l : Location} {steps : List String}
    (h : t.makeAll l steps = (true, t')) : t'.start = t.start ∧
      (∀ l', t'.at? l' = if l' ∈ stations l steps then some .directory else t.at? l') ∧
      ∀ l' ∈ stations l steps, t.at? l' = none ∨ t.at? l' = some .directory := by
  induction steps generalizing t l with
  | nil =>
    obtain rfl : t = t' := congrArg Prod.snd h
    refine ⟨rfl, fun l' => ?_, fun l' hl' => absurd hl' List.not_mem_nil⟩
    rw [stations, if_neg List.not_mem_nil]
  | cons step rest ih =>
    rw [makeAll] at h
    rw [stations]
    cases hat : t.at? (next l step) with
    | none =>
      have hne : next l step ≠ [] := by
        intro hroot
        rw [hroot, at?, if_pos rfl] at hat
        cases hat
      rw [hat] at h
      dsimp only at h
      by_cases hname : Path.isName step = true
      · rw [if_pos hname] at h
        obtain ⟨hstart, hmade, hway⟩ := ih h
        refine ⟨hstart, fun l' => ?_, fun l' hl' => ?_⟩
        · rw [hmade, at?_put hne]
          by_cases hl' : l' = next l step
          · rw [if_pos hl', ite_self, if_pos (hl' ▸ List.mem_cons_self)]
          · simp only [List.mem_cons, hl', false_or, if_false]
        · rcases List.mem_cons.mp hl' with rfl | hl'
          · exact .inl hat
          · have hl' := hway l' hl'
            rw [at?_put hne] at hl'
            by_cases heq : l' = next l step
            · exact .inl (heq ▸ hat)
            · rwa [if_neg heq] at hl'
      · rw [if_neg hname] at h
        cases h
    | some e =>
      rw [hat] at h
      cases e with
      | file text => cases h
      | directory =>
        obtain ⟨hstart, hmade, hway⟩ := ih h
        refine ⟨hstart, fun l' => ?_, fun l' hl' => ?_⟩
        · rw [hmade]
          by_cases hl' : l' = next l step
          · rw [hl', hat, ite_self, if_pos List.mem_cons_self]
          · simp only [List.mem_cons, hl', false_or]
        · rcases List.mem_cons.mp hl' with rfl | hl'
          · exact .inr hat
          · exact hway l' hl'

theorem makeParent_eq_true (h : t.makeParent p = (true, t')) : t'.start = t.start ∧
    (∀ l, t'.at? l = if l ∈ t.parents p then some .directory else t.at? l) ∧
    ∀ l ∈ t.parents p, t.at? l = none ∨ t.at? l = some .directory := by
  unfold makeParent at h
  dsimp only at h
  split at h
  · exact makeAll_eq_true h
  · cases h

/-! ## Files -/

/-- A file that is written in a directory that has been made. -/
theorem saves_of_write? (hmade : t.makeParent p = (true, t')) (h : t'.write? p text = some after) :
    t.Saves p text after := by
  obtain ⟨hstart, hat, hway⟩ := makeParent_eq_true hmade
  obtain ⟨l, hfind, hne, hnot, rfl⟩ := exists_put_of_write? h
  refine ⟨l, hstart, hfind, ?_, ?_, ?_, ?_⟩
  · rw [at?_put hne, if_pos rfl]
  · have hdirectory (h : t.at? l = some .directory) : t'.at? l = some .directory := by
      rw [hat, h, ite_self]
    unfold isDirectoryAt at hnot ⊢
    rw [beq_eq_false_iff_ne] at hnot ⊢
    exact mt hdirectory hnot
  · intro l' hl' hthere
    rw [at?_put hne, if_neg hl', hat]
    by_cases hmem : l' ∈ t.parents p
    · rw [if_pos hmem, (hway l' hmem).resolve_left hthere]
    · rw [if_neg hmem]
  · intro l' hl' hnone
    rw [at?_put hne, if_neg hl', hat, hnone]

end DialogueTree.FileTree
