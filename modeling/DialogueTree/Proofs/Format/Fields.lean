import DialogueTree.Proofs.Format.Variable
import Mathlib.Data.List.Forall2

/-!
# Records with members left out

A member of a record may be left out where it holds the default of its field. What may be written
for a record is thus not one JSON value but many, and its parts may vary in the same way. Two sides
meet here: which members there can be, and what is given for each field when they are read. Where a
record is kept for later reading, whatever has been written for it must be legible and flat.

Results:
* `IsRecord.fields?`: what is given for the fields of such a record.
* `defaulted_of_gives`, `required_of_gives`, `optional_of_gives`: the value of one field.
* `IsRecord.isFlat`: records of plain values can be kept.
-/

namespace DialogueTree.Json

/-! ## What may be written -/

/-- A field of a record: its name, what may be written for its value, and whether the value is the
default, so that the member may be left out. -/
structure Field where
  name : String
  Written : Json → Prop
  isDefault : Prop

/-- A field whose value is written in one way only. -/
def Field.plain (name : String) (j : Json) (isDefault : Prop) : Field := ⟨name, (· = j), isDefault⟩

/-- The members that may be written for some fields: one for each field in order, except for some
of those that hold their default. -/
inductive Members : List Field → List (String × Json) → Prop
  | nil : Members [] []
  | write {f : Field} {fs : List Field} {j : Json} {ms : List (String × Json)} :
      f.Written j → Members fs ms → Members (f :: fs) ((f.name, j) :: ms)
  | leaveOut {f : Field} {fs : List Field} {ms : List (String × Json)} :
      f.isDefault → Members fs ms → Members (f :: fs) ms

/-- Whether a value is a record of some fields. -/
def IsRecord (fs : List Field) (j : Json) : Prop := ∃ ms, Members fs ms ∧ j = record ms

/-- Whether a value is an array of what may be written for some things. -/
def IsList {α : Type} (Written : α → Json → Prop) (as : List α) (j : Json) : Prop :=
  ∃ js, List.Forall₂ Written as js ∧ j = .array js

/-- Whether a value is what may be written for a thing, or `null` where there is none. -/
def IsOption {α : Type} (Written : α → Json → Prop) : Option α → Json → Prop
  | none, j => j = .null
  | some a, j => Written a j

/-- Whether something may be given for a field: one of its written values, or nothing where it holds
its default. -/
def Field.Gives (f : Field) : Option Json → Prop
  | some j => f.Written j
  | none => f.isDefault

variable {f : Field} {fs gs : List Field} {ms : List (String × Json)} {j : Json}

theorem Members.exists_field (h : Members fs ms) {m : String × Json} (hm : m ∈ ms) :
    ∃ f ∈ fs, m.1 = f.name ∧ f.Written m.2 := by
  induction h with
  | nil => cases hm
  | write hj _ ih =>
    rcases List.mem_cons.mp hm with rfl | hm
    · exact ⟨_, List.mem_cons_self .., rfl, hj⟩
    · obtain ⟨f, hf, hsame⟩ := ih hm
      exact ⟨f, List.mem_cons_of_mem _ hf, hsame⟩
  | leaveOut _ _ ih =>
    obtain ⟨f, hf, hsame⟩ := ih hm
    exact ⟨f, List.mem_cons_of_mem _ hf, hsame⟩

theorem Members.append {ns : List (String × Json)} (h : Members fs ms) (h' : Members gs ns) :
    Members (fs ++ gs) (ms ++ ns) := by
  induction h with
  | nil => exact h'
  | write hj _ ih => exact .write hj ih
  | leaveOut hdefault _ ih => exact .leaveOut hdefault ih

theorem isList_ofList {α : Type} {Written : α → Json → Prop} {toJson : α → Json} {as : List α}
    (h : ∀ a ∈ as, Written a (toJson a)) : IsList Written as (.ofList toJson as) :=
  ⟨_, List.forall₂_map_right_iff.mpr (List.forall₂_same.mpr h), rfl⟩

/-! ## What is given -/

theorem member?_of_notMem {name : String} (h : name ∉ ms.map (·.1)) :
    member? name (ms.map fun m => (some m.1, m.2)) = some none := by
  have hfilter : (ms.map fun m => ((some m.1 : Literal), m.2)).filter (·.1 == some name) = [] := by
    rw [List.filter_eq_nil_iff]
    intro a ha heq
    obtain ⟨m, hm, rfl⟩ := List.mem_map.mp ha
    exact h (List.mem_map.mpr ⟨m, hm, by simpa using heq⟩)
  rw [member?, hfilter]

theorem member?_cons_self {name : String} (h : name ∉ ms.map (·.1)) :
    member? name ((some name, j) :: ms.map fun m => (some m.1, m.2)) = some (some j) := by
  have hrest := member?_of_notMem h
  unfold member? at *
  rw [List.filter_cons_of_pos (by simp)]
  split at hrest
  next hfilter => rw [hfilter]
  next => cases hrest
  next => cases hrest

theorem member?_cons_of_ne {name other : String} (h : other ≠ name)
    (members : List (Literal × Json)) :
    member? name ((some other, j) :: members) = member? name members := by
  unfold member?
  rw [List.filter_cons_of_neg (by simpa using h)]

/-- For each field, the members give what may be given for it. -/
theorem Members.member? (h : Members fs ms) (hnames : (fs.map (·.name)).Nodup) (hf : f ∈ fs) :
    ∃ o, Json.member? f.name (ms.map fun m => (some m.1, m.2)) = some o ∧ f.Gives o := by
  have habsent {g : Field} {gs : List Field} {ms : List (String × Json)} (h : Members gs ms)
      (hg : g.name ∉ gs.map (·.name)) : g.name ∉ ms.map (·.1) := by
    intro hmem
    obtain ⟨m, hm, hname⟩ := List.mem_map.mp hmem
    obtain ⟨f, hf, hsame, -⟩ := h.exists_field hm
    exact hg (List.mem_map.mpr ⟨f, hf, hsame.symm.trans hname⟩)
  induction h with
  | nil => cases hf
  | @write g fs j ms hj hms ih =>
    rw [List.map_cons, List.nodup_cons] at hnames
    rcases List.mem_cons.mp hf with rfl | hf
    · exact ⟨some j, member?_cons_self (habsent hms hnames.1), hj⟩
    · have hne : g.name ≠ f.name := fun heq => hnames.1 (heq ▸ List.mem_map_of_mem hf)
      rw [List.map_cons, member?_cons_of_ne hne]
      exact ih hnames.2 hf
  | @leaveOut g fs ms hdefault hms ih =>
    rw [List.map_cons, List.nodup_cons] at hnames
    rcases List.mem_cons.mp hf with rfl | hf
    · exact ⟨none, member?_of_notMem (habsent hms hnames.1), hdefault⟩
    · exact ih hnames.2 hf

/-- For some of its fields, a record gives what may be given for each. -/
theorem IsRecord.fields? (h : IsRecord fs j) (hnames : (fs.map (·.name)).Nodup) (hgs : gs ⊆ fs) :
    ∃ os, j.fields? (gs.map (·.name)) = some os ∧ List.Forall₂ Field.Gives gs os := by
  obtain ⟨ms, hms, rfl⟩ := h
  have hnamed : (ms.map fun m => ((some m.1 : Literal), m.2)).all (·.1.isSome) = true := by simp
  rw [record, Json.fields?, if_pos hnamed]
  induction gs with
  | nil => exact ⟨[], rfl, .nil⟩
  | cons g gs ih =>
    obtain ⟨hg, hgs⟩ := List.cons_subset.mp hgs
    obtain ⟨o, ho, hgives⟩ := hms.member? hnames hg
    obtain ⟨os, hos, hrest⟩ := ih hgs
    refine ⟨o :: os, ?_, .cons hgives hrest⟩
    rw [List.map_cons, List.mapM_cons, ho, hos]
    rfl

/-! ## The values of fields -/

theorem text?_text (s : String) : (text s).text? = some s := rfl

theorem bool?_bool (b : Bool) : (bool b).bool? = some b := rfl

section Values

variable {α : Type} {read : Json → Option α} {a d : α} {o : Option Json}

theorem defaulted_of_gives (h : f.Gives o) (hdefault : f.isDefault → a = d)
    (hread : ∀ j, f.Written j → read j = some a) : defaulted d read o = some a := by
  cases o with
  | none => exact congrArg some (hdefault h).symm
  | some j => exact hread j h

theorem required_of_gives (h : f.Gives o) (hdefault : ¬f.isDefault)
    (hread : ∀ j, f.Written j → read j = some a) : required read o = some a := by
  cases o with
  | none => exact absurd h hdefault
  | some j => exact hread j h

theorem defaulted_of_plain {name : String} {isDefault : Prop}
    (h : (Field.plain name j isDefault).Gives o) (hdefault : isDefault → a = d)
    (hread : read j = some a) : defaulted d read o = some a :=
  defaulted_of_gives h hdefault fun _ hj => hj ▸ hread

theorem required_of_plain {name : String} (h : (Field.plain name j False).Gives o)
    (hread : read j = some a) : required read o = some a :=
  required_of_gives h id fun _ hj => hj ▸ hread

theorem optional_of_gives {Written : α → Json → Prop} {a : Option α} {name : String}
    (h : Field.Gives ⟨name, IsOption Written a, a = none⟩ o) (hnull : read .null = none)
    (hread : ∀ a j, Written a j → read j = some a) : optional read o = some a := by
  cases o with
  | none =>
    obtain rfl : a = none := h
    rfl
  | some j =>
    cases a with
    | none =>
      obtain rfl : j = .null := h
      rfl
    | some a =>
      have hj := hread a j h
      unfold optional
      split
      next heq => cases heq
      next heq =>
        cases heq
        rw [hnull] at hj
        cases hj
      next heq =>
        cases heq
        rw [hj]
        rfl

theorem IsList.list?_eq {Written : α → Json → Prop} {as : List α} (h : IsList Written as j)
    (hread : ∀ a ∈ as, ∀ j, Written a j → read j = some a) : j.list? read = some as := by
  obtain ⟨js, hjs, rfl⟩ := h
  rw [list?]
  induction hjs with
  | nil => rfl
  | @cons a j as js hj _ ih =>
    rw [List.mapM_cons, hread a (List.mem_cons_self ..) j hj,
      ih fun a ha => hread a (List.mem_cons_of_mem _ ha)]
    rfl

end Values

/-! ## What can be kept -/

/-- Whether a value is legible and has at most a number of arrays and objects inside each other. -/
structure IsFlat (depth : Nat) (j : Json) : Prop where
  isLegible : j.isLegible = true
  depth_le : j.depth ≤ depth

theorem IsFlat.mono {k n : Nat} (h : j.IsFlat k) (hle : k ≤ n) : j.IsFlat n :=
  ⟨h.isLegible, Nat.le_trans h.depth_le hle⟩

theorem isFlat_null : IsFlat 0 .null := ⟨rfl, Nat.le_refl 0⟩

theorem isFlat_bool (b : Bool) : IsFlat 0 (.bool b) := ⟨rfl, Nat.le_refl 0⟩

theorem isFlat_text (s : String) : IsFlat 0 (.text s) := ⟨rfl, Nat.le_refl 0⟩

/-- Integers that are not longer than those of 64 bits can be kept. -/
theorem isFlat_int {i : Int} (h : i.natAbs < 10 ^ 20) : IsFlat 0 (.int i) := by
  obtain ⟨y, hy⟩ := Numeral.exists_toFloat? (n := .ofInt i) h fun e he => by cases he
  refine ⟨?_, Nat.le_refl 0⟩
  rw [int, isLegible, Numeral.inRange, hy]
  rfl

theorem isFlat_index {n : Nat} (h : n < indexLimit) : IsFlat 0 (.int n) :=
  isFlat_int (by rw [Int.natAbs_natCast]; exact Nat.lt_trans h (by decide))

theorem isFlat_int32 (i : Int32) : IsFlat 0 (.int i.toInt) := by
  have hlow := i.le_toInt
  have hhigh := i.toInt_lt
  exact isFlat_int (by omega)

theorem isFlat_float32 (x : Float32) : IsFlat 0 (.float32 x) := by
  unfold float32
  cases hn : Numeral.ofFloat32? Layout.json x with
  | none => exact isFlat_null
  | some n =>
    obtain ⟨y, hy⟩ := Numeral.exists_toFloat?_ofFloat32? hn
    refine ⟨?_, Nat.le_refl 0⟩
    rw [ofOption, isLegible, Numeral.inRange, hy]
    rfl

theorem isFlat_record {k : Nat} (h : ∀ m ∈ ms, m.2.IsFlat k) : (record ms).IsFlat (k + 1) := by
  have hmembers : membersAreLegible (ms.map fun m => (some m.1, m.2)) = true ∧
      depthOfMembers (ms.map fun m => (some m.1, m.2)) ≤ k := by
    induction ms with
    | nil => exact ⟨rfl, Nat.zero_le k⟩
    | cons m ms ih =>
      obtain ⟨hm, hms⟩ := List.forall_mem_cons.mp h
      obtain ⟨hlegible, hdepth⟩ := ih hms
      refine ⟨?_, Nat.max_le.mpr ⟨hm.depth_le, hdepth⟩⟩
      rw [List.map_cons, membersAreLegible, hm.isLegible, hlegible]
      rfl
  exact ⟨hmembers.1, Nat.succ_le_succ hmembers.2⟩

theorem isFlat_array {k : Nat} {js : List Json} (h : ∀ j ∈ js, j.IsFlat k) :
    (array js).IsFlat (k + 1) := by
  have hitems : areLegible js = true ∧ depthOfItems js ≤ k := by
    induction js with
    | nil => exact ⟨rfl, Nat.zero_le k⟩
    | cons j js ih =>
      obtain ⟨hj, hjs⟩ := List.forall_mem_cons.mp h
      obtain ⟨hlegible, hdepth⟩ := ih hjs
      refine ⟨?_, Nat.max_le.mpr ⟨hj.depth_le, hdepth⟩⟩
      rw [areLegible, hj.isLegible, hlegible]
      rfl
  exact ⟨hitems.1, Nat.succ_le_succ hitems.2⟩

theorem isFlat_ofList {α : Type} {toJson : α → Json} {k : Nat} (h : ∀ a, (toJson a).IsFlat k)
    (as : List α) : (ofList toJson as).IsFlat (k + 1) := by
  refine isFlat_array fun j hj => ?_
  obtain ⟨a, -, rfl⟩ := List.mem_map.mp hj
  exact h a

theorem isFlat_of_optionText {s : Option String}
    (h : IsOption (fun s j => j = .text s) s j) : j.IsFlat 0 := by
  cases s with
  | none =>
    obtain rfl : j = .null := h
    exact isFlat_null
  | some s =>
    obtain rfl : j = .text s := h
    exact isFlat_text s

/-- A record whose values are flat is flat. -/
theorem IsRecord.isFlat {k : Nat} (h : IsRecord fs j)
    (hfields : ∀ f ∈ fs, ∀ j, f.Written j → j.IsFlat k) : j.IsFlat (k + 1) := by
  obtain ⟨ms, hms, rfl⟩ := h
  refine isFlat_record fun m hm => ?_
  obtain ⟨f, hf, -, hj⟩ := hms.exists_field hm
  exact hfields f hf m.2 hj

theorem IsFlat.canKeep {k enclosing : Nat} (h : j.IsFlat k) (hle : enclosing + k ≤ depthLimit) :
    j.canKeep enclosing = true := by
  have hdepth := h.depth_le
  rw [Json.canKeep, h.isLegible, Bool.true_and]
  exact decide_eq_true (by omega)

end DialogueTree.Json
