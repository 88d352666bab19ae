import DialogueTree.Proofs.Disk.TreeFiles
import Mathlib.Data.List.Basic

/-!
# Absolute paths

A path that is not absolute is read from the directory where paths start. Read from the root, with
the names of that directory before it, it leads to the same place, unless it becomes too long.

Results:
* `find?_absolute`: a path and its absolute path lead to the same place.
* `sameTexts_absolute`: the texts of a directory by its path and by its absolute path.
-/

namespace DialogueTree

/-! ## Paths -/

namespace Path

variable {p : Path}

theorem join_of_isAbsolute (dir : Path) (h : isAbsolute p = true) : join dir p = p := by
  rw [join, h, Bool.true_or, if_pos rfl]

theorem isAbsolute_append (hp : p ≠ "") (q : Path) : isAbsolute (p ++ q) = isAbsolute p := by
  unfold isAbsolute
  rw [String.toList_append]
  cases hchars : p.toList with
  | nil => exact absurd (String.toList_eq_nil_iff.mp hchars) hp
  | cons c cs => rfl

theorem ne_empty_of_isAbsolute (h : isAbsolute p = true) : p ≠ "" := by
  rintro rfl
  cases h

/-- A path read from an absolute directory is absolute. -/
theorem isAbsolute_join {dir : Path} (h : isAbsolute dir = true) (p : Path) :
    isAbsolute (join dir p) = true := by
  unfold join
  split
  next hcases =>
    cases hp : isAbsolute p with
    | true => rfl
    | false =>
      rw [hp, Bool.false_or, String.isEmpty_iff] at hcases
      rw [hcases] at h
      cases h
  · have hdir := ne_empty_of_isAbsolute h
    split
    · rwa [isAbsolute_append hdir]
    · rwa [String.append_assoc, isAbsolute_append hdir]

theorem piecesOf_name {name : List Char} (h : '/' ∉ name) (piece rest : List Char) :
    piecesOf piece (name ++ '/' :: rest) =
      String.ofList (piece.reverse ++ name) :: piecesOf [] rest := by
  induction name generalizing piece with
  | nil => rw [List.nil_append, piecesOf, if_pos rfl, List.append_nil]
  | cons c cs ih =>
    obtain ⟨hc, hcs⟩ := not_or.mp (mt List.mem_cons.mpr h)
    rw [List.cons_append, piecesOf, if_neg (Ne.symm hc), ih hcs, List.reverse_cons,
      List.append_assoc]
    rfl

/-- The characters of a path up to the one after some names. -/
def namesChars (names : List String) : List Char := names.flatMap fun name => name.toList ++ ['/']

theorem piecesOf_namesChars {names : List String} (h : ∀ name ∈ names, '/' ∉ name.toList)
    (rest : List Char) : piecesOf [] (namesChars names ++ rest) = names ++ piecesOf [] rest := by
  induction names with
  | nil => rfl
  | cons name names ih =>
    have hname := piecesOf_name (h name List.mem_cons_self) [] (namesChars names ++ rest)
    rw [List.reverse_nil, List.nil_append, String.ofList_toList,
      ih fun name hname => h name (List.mem_cons_of_mem _ hname)] at hname
    rw [namesChars, List.flatMap_cons, List.append_assoc, List.append_assoc]
    exact hname

theorem intercalate_slash {name : String} {names : List String} :
    ("/".intercalate (name :: names)).toList ++ ['/'] = namesChars (name :: names) := by
  induction names generalizing name with
  | nil => simp [namesChars]
  | cons name' names ih =>
    rw [String.intercalate_cons_cons, String.toList_append, String.toList_append, List.append_assoc,
      ih, namesChars, List.flatMap_cons]
    rfl

theorem exists_namesChars (names : List String) : ∃ cs, '/' :: namesChars names = cs ++ ['/'] := by
  rcases List.eq_nil_or_concat names with rfl | ⟨names, name, rfl⟩
  · exact ⟨[], rfl⟩
  · refine ⟨'/' :: namesChars names ++ name.toList, ?_⟩
    simp [namesChars]

/-- The last character of names in a row is one of the last name. -/
theorem exists_getLast?_intercalate {name : String} {names : List String}
    (h : ∀ n ∈ name :: names, isName n = true ∧ '/' ∉ n.toList) :
    ∃ c, ("/".intercalate (name :: names)).toList.getLast? = some c ∧ c ≠ '/' := by
  induction names generalizing name with
  | nil =>
    obtain ⟨hname, hslash⟩ := h name List.mem_cons_self
    rw [String.intercalate_singleton]
    cases hlast : name.toList.getLast? with
    | none =>
      obtain rfl : name = "" := by simpa using List.getLast?_eq_none_iff.mp hlast
      cases hname
    | some c =>
      refine ⟨c, rfl, ?_⟩
      rintro rfl
      exact hslash (List.mem_of_getLast? hlast)
  | cons name' names ih =>
    obtain ⟨c, hlast, hc⟩ := ih fun n hn => h n (List.mem_cons_of_mem _ hn)
    refine ⟨c, ?_, hc⟩
    rw [String.intercalate_cons_cons, String.toList_append, List.getLast?_append, hlast]
    rfl

end Path

namespace FileTree

variable {t : FileTree} {p dir : Path}

/-- The directory that paths start from is absolute. -/
theorem isAbsolute_workingDirectory (t : FileTree) :
    Path.isAbsolute ("/" ++ "/".intercalate t.start) = true :=
  Path.isAbsolute_append (by decide) _

/-- The absolute path of a directory that a command names. -/
def absolute (t : FileTree) (dir : Path) : Path :=
  Path.join ("/" ++ "/".intercalate t.start) dir

theorem isAbsolute_absolute (t : FileTree) (dir : Path) :
    Path.isAbsolute (t.absolute dir) = true :=
  Path.isAbsolute_join t.isAbsolute_workingDirectory dir

theorem absolute_of_isAbsolute (t : FileTree) (hp : Path.isAbsolute p = true) :
    t.absolute p = p :=
  Path.join_of_isAbsolute _ hp

/-- Whether the directory that paths start from is there, under names that a path can hold. -/
structure IsPlaced (t : FileTree) : Prop where
  named : ∀ name ∈ t.start, Path.isName name = true
  plain : ∀ name ∈ t.start, '/' ∉ name.toList ∧ '\x00' ∉ name.toList
  reached : ∀ l, l <+: t.start → t.isDirectoryAt l = true

/-- What stands before a path that is made absolute. -/
def way (t : FileTree) : String := String.ofList ('/' :: Path.namesChars t.start)

theorem absolute_eq (h : t.IsPlaced) (hp : Path.isAbsolute p = false) :
    t.absolute p = t.way ++ p := by
  refine String.toList_injective ?_
  rw [way, String.toList_append, String.toList_ofList]
  have hstart : ("/" ++ "/".intercalate t.start).isEmpty = false := by
    simp [← String.toList_eq_nil_iff]
  unfold absolute Path.join
  rw [hp, hstart, Bool.or_false, if_neg Bool.false_ne_true]
  cases hnames : t.start with
  | nil =>
    rw [String.intercalate_nil, String.append_empty, if_pos (by decide), String.toList_append]
    rfl
  | cons name names =>
    have hnamed : ∀ n ∈ name :: names, Path.isName n = true ∧ '/' ∉ n.toList := by
      rw [← hnames]
      exact fun n hn => ⟨h.named n hn, (h.plain n hn).1⟩
    obtain ⟨c, hlast, hc⟩ := Path.exists_getLast?_intercalate hnamed
    have hopen : ("/" ++ "/".intercalate (name :: names)).toList.getLast? ≠ some '/' := by
      rw [String.toList_append, List.getLast?_append, hlast]
      simpa using hc
    rw [if_neg (by simpa using hopen), String.toList_append, String.toList_append,
      String.toList_append, ← Path.intercalate_slash, List.cons_append, List.append_assoc,
      List.append_assoc, List.append_assoc]
    rfl

theorem follow?_names {names : List String} {l : Location} (pieces : List String)
    (hnames : ∀ name ∈ names, Path.isName name = true)
    (hreached : ∀ l', l' <+: names → t.isDirectoryAt (l ++ l') = true) :
    t.follow? l (names ++ pieces) = t.follow? (l ++ names) pieces := by
  induction names generalizing l with
  | nil => rw [List.nil_append, List.append_nil]
  | cons name names ih =>
    have hl : t.isDirectoryAt l = true := by
      have := hreached [] List.nil_prefix
      rwa [List.append_nil] at this
    rw [List.cons_append, follow?, if_pos hl, next_of_isName (hnames name List.mem_cons_self), ih]
    · rw [List.append_assoc]
      rfl
    · exact fun name hname => hnames name (List.mem_cons_of_mem _ hname)
    · intro l' hl'
      have := hreached (name :: l') (List.prefix_cons_inj name |>.mpr hl')
      rwa [List.append_assoc]

/-- Whether absolute paths below a directory are short enough to be looked up. -/
structure HasRoom (t : FileTree) (dir : Path) : Prop where
  directory : (t.absolute dir).utf8ByteSize ≤ Path.maxBytes
  globals : (t.absolute (Path.join dir globalsFileName)).utf8ByteSize ≤ Path.maxBytes
  entries : ∀ entry ∈ t.entries, ∀ l, l <:+: entry.1 →
    (t.absolute (Path.below dir ("/".intercalate l))).utf8ByteSize ≤ Path.maxBytes

theorem isValid_absolute (h : t.IsPlaced) (hp : p ≠ "")
    (hsize : (t.absolute p).utf8ByteSize ≤ Path.maxBytes) :
    Path.isValid (t.absolute p) = Path.isValid p := by
  cases hrelative : Path.isAbsolute p with
  | true => rw [t.absolute_of_isAbsolute hrelative]
  | false =>
    have hway : '\x00' ∉ t.way.toList := by
      rw [way, String.toList_ofList]
      intro hmem
      rcases List.mem_cons.mp hmem with heq | hmem
      · cases heq
      · obtain ⟨name, hname, hmem⟩ := List.mem_flatMap.mp hmem
        rcases List.mem_append.mp hmem with hmem | hmem
        · exact (h.plain name hname).2 hmem
        · cases List.mem_singleton.mp hmem
    rw [absolute_eq h hrelative, String.utf8ByteSize_append] at hsize
    have hshort : p.utf8ByteSize ≤ Path.maxBytes := by omega
    have hne : t.way ++ p ≠ "" := by simp [hp]
    rw [absolute_eq h hrelative, Path.isValid, Path.isValid, String.utf8ByteSize_append,
      String.toList_append, bne_iff_ne.mpr hp, bne_iff_ne.mpr hne]
    simp [hsize, hshort, hway]

/-- A path and its absolute path lead to the same place. -/
theorem find?_absolute (h : t.IsPlaced) (hp : p ≠ "")
    (hsize : (t.absolute p).utf8ByteSize ≤ Path.maxBytes) :
    t.find? (t.absolute p) = t.find? p := by
  cases hrelative : Path.isAbsolute p with
  | true => rw [t.absolute_of_isAbsolute hrelative]
  | false =>
    have hslash : ∀ name ∈ t.start, '/' ∉ name.toList := fun name hname => (h.plain name hname).1
    have hpieces : Path.pieces (t.absolute p) = "" :: (t.start ++ Path.pieces p) := by
      rw [absolute_eq h hrelative, Path.pieces, way, String.toList_append, String.toList_ofList,
        List.cons_append, Path.piecesOf, if_pos rfl, Path.piecesOf_namesChars hslash]
      rfl
    have hroot : t.isDirectoryAt [] = true := h.reached [] List.nil_prefix
    have hnext : next [] "" = [] := rfl
    have hfollow := follow?_names (l := []) (Path.pieces p) h.named h.reached
    unfold find? base
    rw [isValid_absolute h hp hsize, isAbsolute_absolute, hrelative, hpieces, if_pos rfl,
      if_neg Bool.false_ne_true, follow?, if_pos hroot, hnext, hfollow, List.nil_append]

/-! ## Directories -/

theorem join_ne_empty {seen : Path} (hdir : dir ≠ "") (hseen : seen ≠ "") :
    Path.join dir seen ≠ "" := by
  unfold Path.join
  split
  · exact hseen
  · split <;> simp [hdir]

theorem below_ne_empty (hdir : dir ≠ "") (seen : Path) : Path.below dir seen ≠ "" := by
  unfold Path.below
  split
  · exact hdir
  next hseen => exact join_ne_empty hdir hseen

theorem join_eq (hdir : dir ≠ "") {seen : Path} (hseen : Path.isAbsolute seen = false) :
    Path.join dir seen = dir ++ (if dir.toList.getLast? = some '/' then seen else "/" ++ seen) := by
  unfold Path.join
  rw [hseen, Bool.false_or, if_neg (by simpa using hdir)]
  by_cases hlast : dir.toList.getLast? = some '/'
  · rw [if_pos hlast, if_pos (beq_iff_eq.mpr hlast)]
  · rw [if_neg hlast, if_neg (mt beq_iff_eq.mp hlast), String.append_assoc]

/-- What is seen from an absolute path has an absolute path. -/
theorem join_absolute (h : t.IsPlaced) (hdir : dir ≠ "") (seen : Path) :
    Path.join (t.absolute dir) seen = t.absolute (Path.join dir seen) := by
  cases hseen : Path.isAbsolute seen with
  | true =>
    rw [Path.join_of_isAbsolute _ hseen, Path.join_of_isAbsolute _ hseen,
      t.absolute_of_isAbsolute hseen]
  | false =>
    cases hrelative : Path.isAbsolute dir with
    | true =>
      have hjoin := Path.isAbsolute_join hrelative seen
      rw [t.absolute_of_isAbsolute hrelative, t.absolute_of_isAbsolute hjoin]
    | false =>
      have hlast : (t.way ++ dir).toList.getLast? = dir.toList.getLast? := by
        rw [String.toList_append, List.getLast?_append, Option.or_of_isSome]
        simpa using hdir
      have hjoin (q : Path) : t.absolute (dir ++ q) = t.way ++ (dir ++ q) :=
        absolute_eq h ((Path.isAbsolute_append hdir q).trans hrelative)
      rw [absolute_eq h hrelative, join_eq (by simp [hdir]) hseen, join_eq hdir hseen, hlast, hjoin,
        String.append_assoc]

theorem below_absolute (h : t.IsPlaced) (hdir : dir ≠ "") (seen : Path) :
    Path.below (t.absolute dir) seen = t.absolute (Path.below dir seen) := by
  unfold Path.below
  split
  · rfl
  · exact join_absolute h hdir seen

theorem suffix_append_slash {ending before after : List Char} (h : '/' ∉ ending) :
    ending <:+ before ++ '/' :: after ↔ ending <:+ after := by
  have hdrop (c : Char) (cs : List Char) (hmem : '/' ∈ c :: cs) :
      ending <:+ c :: cs ↔ ending <:+ cs := by
    rw [List.suffix_cons_iff, or_iff_right]
    rintro rfl
    exact h hmem
  induction before with
  | nil => exact hdrop _ _ List.mem_cons_self
  | cons c cs ih => exact (hdrop c _ (by simp)).trans ih

theorem endsWith_absolute (h : t.IsPlaced) {ending : String} (hending : '/' ∉ ending.toList)
    (p : Path) : (t.absolute p).endsWith ending = p.endsWith ending := by
  cases hrelative : Path.isAbsolute p with
  | true => rw [t.absolute_of_isAbsolute hrelative]
  | false =>
    obtain ⟨cs, hcs⟩ := Path.exists_namesChars t.start
    unfold Path.endsWith
    rw [absolute_eq h hrelative, way, String.toList_append, String.toList_ofList, hcs,
      List.append_assoc, Bool.eq_iff_iff, List.isSuffixOf_iff_suffix, List.isSuffixOf_iff_suffix]
    exact suffix_append_slash hending

theorem filesBelow_absolute (h : t.IsPlaced) (hdir : dir ≠ "") (hroom : t.HasRoom dir) :
    t.filesBelow (t.absolute dir) = t.filesBelow dir := by
  unfold filesBelow
  rw [find?_absolute h hdir hroom.directory]
  cases t.find? dir with
  | none => rfl
  | some l =>
    refine List.filterMap_congr fun entry hentry => ?_
    obtain ⟨l', e⟩ := entry
    cases e with
    | directory => rfl
    | file text =>
      have hsize := hroom.entries _ hentry (l'.drop l.length).dropLast
        ((List.dropLast_prefix _).isInfix.trans (List.drop_suffix _ _).isInfix)
      dsimp only
      rw [below_absolute h hdir, isValid_absolute h (below_ne_empty hdir _) hsize]

theorem exists_entry_of_filesBelow {seen : Path} (h : seen ∈ t.filesBelow dir) :
    ∃ entry ∈ t.entries, ∃ l, l <:+: entry.1 ∧ seen = "/".intercalate l := by
  unfold filesBelow at h
  split at h
  · cases h
  next l _ =>
    obtain ⟨⟨l', e⟩, hentry, hfile⟩ := List.mem_filterMap.mp h
    cases e with
    | directory => cases hfile
    | file text =>
      dsimp only at hfile
      split at hfile
      · cases hfile
        exact ⟨_, hentry, l'.drop l.length, (List.drop_suffix _ _).isInfix, rfl⟩
      · cases hfile

/-- A directory reads the same by its path and by its absolute path. -/
theorem sameTexts_absolute (h : t.IsPlaced) (hdir : dir ≠ "") (hroom : t.HasRoom dir) :
    t.SameTexts (t.absolute dir) dir := by
  refine sameTexts_of_filesBelow (filesBelow_absolute h hdir hroom) ?_ ?_ ?_
  · intro seen _
    rw [below_absolute h hdir, endsWith_absolute h (by decide)]
  · intro seen hseen
    obtain ⟨entry, hentry, l, hl, rfl⟩ := exists_entry_of_filesBelow hseen
    unfold readText?
    rw [below_absolute h hdir,
      find?_absolute h (below_ne_empty hdir _) (hroom.entries entry hentry l hl)]
  · rw [join_absolute h hdir, find?_absolute h (join_ne_empty hdir (by decide)) hroom.globals]

end FileTree

end DialogueTree
