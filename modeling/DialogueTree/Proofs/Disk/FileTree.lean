import DialogueTree.Disk.FileTree

/-!
# Files read back

What has been written to a path is read from it. The way to the new file leads through directories
only, and none of them is the file itself, so it is the same before and after.

Results:
* `FileTree.at?_put`: what stands at a location after something has been put at one.
* `FileTree.readText?_of_write?`: a file that has been written.
-/

namespace DialogueTree.FileTree

variable {t t' : FileTree} {l l' : Location} {e : Entry}

theorem lookup_putInto (entries : List (Location × Entry)) :
    (putInto l e entries).lookup l' = if l' = l then some e else entries.lookup l' := by
  induction entries with
  | nil =>
    rw [putInto, List.lookup_cons]
    by_cases h : l' = l
    · simp [h]
    · rw [beq_false_of_ne h, if_neg h]
  | cons entry rest ih =>
    obtain ⟨l₁, e₁⟩ := entry
    rw [putInto]
    by_cases h₁ : l₁ = l
    · rw [if_pos h₁, List.lookup_cons, List.lookup_cons, h₁]
      by_cases h : l' = l
      · simp [h]
      · rw [beq_false_of_ne h, if_neg h]
    · rw [if_neg h₁, List.lookup_cons, List.lookup_cons, ih]
      by_cases h : l' = l
      · have hne : l' ≠ l₁ := fun heq => h₁ (heq.symm.trans h)
        rw [beq_false_of_ne hne, if_pos h]
      · rw [if_neg h, if_neg h]

/-- What stands at a location after an entry has been put at one that is not the root. -/
theorem at?_put (hl : l ≠ []) : (t.put l e).at? l' = if l' = l then some e else t.at? l' := by
  unfold at? put
  by_cases hroot : l' = []
  · have hne : l' ≠ l := fun h => hl (h ▸ hroot)
    rw [if_pos hroot, if_pos hroot, if_neg hne]
  · rw [if_neg hroot, if_neg hroot]
    exact lookup_putInto t.entries

theorem base_put (p : Path) : (t.put l e).base p = t.base p := rfl

/-- Directories stay where they are when something else is put. -/
theorem isDirectoryAt_put (hl : l ≠ []) (hnot : t.isDirectoryAt l = false)
    (h : t.isDirectoryAt l' = true) : (t.put l e).isDirectoryAt l' = true := by
  have hne : l' ≠ l := by
    rintro rfl
    rw [h] at hnot
    cases hnot
  unfold isDirectoryAt at *
  rw [at?_put hl, if_neg hne]
  exact h

/-- The way through directories to a piece that has been put into the last of them. -/
theorem follow?_put {pieces : List String} {piece : String} {l₀ : Location} (hl : l ≠ [])
    (hnot : t.isDirectoryAt l = false) (hfollow : t.follow? l₀ pieces = some l')
    (hdirectory : t.isDirectoryAt l' = true) (hnext : next l' piece = l) :
    (t.put l e).follow? l₀ (pieces ++ [piece]) = some l := by
  induction pieces generalizing l₀ with
  | nil =>
    rw [follow?] at hfollow
    split at hfollow
    · cases hfollow
      have hthere : ((t.put l e).at? l).isSome = true := by
        rw [at?_put hl, if_pos rfl]
        rfl
      rw [List.nil_append, follow?, if_pos (isDirectoryAt_put hl hnot hdirectory), hnext, follow?,
        if_pos hthere]
    · cases hfollow
  | cons first rest ih =>
    rw [follow?] at hfollow
    split at hfollow
    next hfirst =>
      rw [List.cons_append, follow?, if_pos (isDirectoryAt_put hl hnot hfirst)]
      exact ih hfollow
    · cases hfollow

/-- Where a name leads from a directory. -/
theorem next_of_isName {piece : String} (h : Path.isName piece = true) :
    next l piece = l ++ [piece] := by
  unfold Path.isName at h
  simp only [Bool.and_eq_true, Bool.not_eq_true', bne_iff_ne] at h
  rw [next, if_neg (by rw [h.1.1]; exact Bool.false_ne_true), if_neg h.1.2]

theorem guard_eq_some {p : Prop} [Decidable p] {u : Unit} :
    (guard p : Option Unit) = some u ↔ p := by
  show (if p then some () else none) = some u ↔ p
  by_cases h : p
  · rw [if_pos h]
    exact ⟨fun _ => h, fun _ => rfl⟩
  · rw [if_neg h]
    constructor
    · intro hnone
      cases hnone
    · intro hp
      exact absurd hp h

/-- How a file comes to be written: at a name in a directory, where no directory stands. -/
theorem write?_eq_some {p : Path} {text : String} : t.write? p text = some t' ↔
    Path.isValid p = true ∧ ∃ name l, (Path.pieces p).getLast? = some name ∧
      Path.isName name = true ∧ t.follow? (t.base p) (Path.pieces p).dropLast = some l ∧
      t.isDirectoryAt l = true ∧ t.isDirectoryAt (l ++ [name]) = false ∧
      t' = t.put (l ++ [name]) (.file (some text)) := by
  unfold write?
  constructor
  · intro h
    obtain ⟨_, hvalid, h⟩ := Option.bind_eq_some_iff.mp h
    obtain ⟨name, hlast, h⟩ := Option.bind_eq_some_iff.mp h
    obtain ⟨_, hname, h⟩ := Option.bind_eq_some_iff.mp h
    obtain ⟨l, hfollow, h⟩ := Option.bind_eq_some_iff.mp h
    obtain ⟨_, hplace, h⟩ := Option.bind_eq_some_iff.mp h
    have hplace := guard_eq_some.mp hplace
    rw [Bool.and_eq_true, Bool.not_eq_true'] at hplace
    exact ⟨guard_eq_some.mp hvalid, name, l, hlast, guard_eq_some.mp hname, hfollow, hplace.1,
      hplace.2, (Option.some.inj h).symm⟩
  · rintro ⟨hvalid, name, l, hlast, hname, hfollow, hdirectory, hnot, rfl⟩
    have hplace : (t.isDirectoryAt l && !t.isDirectoryAt (l ++ [name])) = true := by
      rw [hdirectory, hnot]
      rfl
    refine Option.bind_eq_some_iff.mpr ⟨(), guard_eq_some.mpr hvalid, ?_⟩
    refine Option.bind_eq_some_iff.mpr ⟨name, hlast, ?_⟩
    refine Option.bind_eq_some_iff.mpr ⟨(), guard_eq_some.mpr hname, ?_⟩
    refine Option.bind_eq_some_iff.mpr ⟨l, hfollow, ?_⟩
    exact Option.bind_eq_some_iff.mpr ⟨(), guard_eq_some.mpr hplace, rfl⟩

/-- What has been written to a path is one file, which is found there. -/
theorem exists_put_of_write? {p : Path} {text : String} (h : t.write? p text = some t') :
    ∃ l, t'.find? p = some l ∧ l ≠ [] ∧ t.isDirectoryAt l = false ∧
      t' = t.put l (.file (some text)) := by
  obtain ⟨hvalid, name, l, hlast, hname, hfollow, hdirectory, hnot, rfl⟩ := write?_eq_some.mp h
  have hne : l ++ [name] ≠ [] := by simp
  have hpieces : (Path.pieces p).dropLast ++ [name] = Path.pieces p := by
    obtain ⟨pieces, hpieces⟩ := List.getLast?_eq_some_iff.mp hlast
    rw [hpieces, List.dropLast_concat]
  have hway := follow?_put (e := .file (some text)) hne hnot hfollow hdirectory
    (next_of_isName hname)
  rw [hpieces] at hway
  refine ⟨l ++ [name], ?_, hne, hnot, rfl⟩
  rw [find?, if_pos hvalid, base_put, hway]

theorem readText?_of_find? {p : Path} {text : String} (hfind : t.find? p = some l)
    (hat : t.at? l = some (.file (some text))) : t.readText? p = some text := by
  unfold readText?
  rw [hfind, Option.bind_some, hat]

/-- What has been written to a path is read from it. -/
theorem readText?_of_write? {p : Path} {text : String} (h : t.write? p text = some t') :
    t'.kind? p = some .file ∧ t'.readText? p = some text := by
  obtain ⟨l, hfind, hne, -, rfl⟩ := exists_put_of_write? h
  have hat : (t.put l (.file (some text))).at? l = some (.file (some text)) := by
    rw [at?_put hne, if_pos rfl]
  refine ⟨?_, readText?_of_find? hfind hat⟩
  unfold kind?
  rw [hfind, Option.bind_some, hat]
  rfl

end DialogueTree.FileTree
