import DialogueTree.Format.Variable
import DialogueTree.Proofs.Decimal.Numeral
import DialogueTree.Proofs.Decimal.Range

/-!
# Variables read back

A record that has been written with all its fields gives each of them what was written. Of the
values in it only floats can be lost: what is not finite is written as `null`, which is no number.

Results:
* `Json.fields?_record`: what is given for the fields of a record.
* `Variable.ofJson?_toJson`, `Store.ofJson?_toJson`: variables whose floats read back.
* `Store.exists_ofJson?`, `Store.ofJson?_eq_none`: variables can be read if and only if all their
  floats are finite.
-/

namespace DialogueTree

/-! ## Records -/

namespace Json

theorem mapM_eq_some {α β : Type} {f : α → Option β} {g : α → β} {as : List α}
    (h : ∀ a ∈ as, f a = some (g a)) : as.mapM f = some (as.map g) := by
  induction as with
  | nil => rfl
  | cons a as ih =>
    have hrest := ih fun b hb => h b (List.mem_cons_of_mem _ hb)
    rw [List.mapM_cons, h a (List.mem_cons_self ..), hrest]
    rfl

theorem exists_mapM {α β : Type} {f : α → Option β} {as : List α}
    (h : ∀ a ∈ as, ∃ b, f a = some b) : ∃ bs, as.mapM f = some bs := by
  induction as with
  | nil => exact ⟨[], rfl⟩
  | cons a as ih =>
    obtain ⟨b, hb⟩ := h a (List.mem_cons_self ..)
    obtain ⟨bs, hbs⟩ := ih fun b hb => h b (List.mem_cons_of_mem _ hb)
    rw [List.mapM_cons, hb, hbs]
    exact ⟨b :: bs, rfl⟩

theorem mapM_eq_none {α β : Type} {f : α → Option β} {as : List α} {a : α} (ha : a ∈ as)
    (h : f a = none) : as.mapM f = none := by
  induction as with
  | nil => cases ha
  | cons b bs ih =>
    rw [List.mapM_cons]
    rcases List.mem_cons.mp ha with rfl | ha
    · rw [h]
      rfl
    · rw [ih ha]
      cases f b <;> rfl

/-- A member with a name that no other member has. -/
theorem filter_name {members : List (String × Json)} (h : (members.map (·.1)).Nodup)
    {m : String × Json} (hm : m ∈ members) : members.filter (·.1 == m.1) = [m] := by
  induction members with
  | nil => cases hm
  | cons m' ms ih =>
    rw [List.map_cons, List.nodup_cons] at h
    rcases List.mem_cons.mp hm with rfl | hm
    · have hrest : ms.filter (·.1 == m.1) = [] := by
        rw [List.filter_eq_nil_iff]
        intro a ha heq
        exact h.1 (List.mem_map.mpr ⟨a, ha, by simpa using heq⟩)
      rw [List.filter_cons_of_pos (by simp), hrest]
    · have hne : m'.1 ≠ m.1 := fun heq => h.1 (heq ▸ List.mem_map_of_mem hm)
      rw [List.filter_cons_of_neg (by simpa using hne), ih h.2 hm]

theorem member?_record {members : List (String × Json)} (h : (members.map (·.1)).Nodup)
    {m : String × Json} (hm : m ∈ members) :
    member? m.1 (members.map fun m => (some m.1, m.2)) = some (some m.2) := by
  have hfilter : (members.map fun m => ((some m.1 : Literal), m.2)).filter (·.1 == some m.1) =
      (members.filter (·.1 == m.1)).map fun m => (some m.1, m.2) := by
    rw [List.filter_map]
    rfl
  rw [member?, hfilter, filter_name h hm]
  rfl

/-- Every field of a record that has been written is given what was written. -/
theorem fields?_record (members : List (String × Json)) (h : (members.map (·.1)).Nodup) :
    (record members).fields? (members.map (·.1)) = some (members.map fun m => some m.2) := by
  have hnamed : (members.map fun m => ((some m.1 : Literal), m.2)).all (·.1.isSome) = true := by
    simp
  rw [record, fields?, if_pos hnamed, List.mapM_map]
  exact mapM_eq_some fun m hm => member?_record h hm

/-- The kernel must not compare a value with its own reading step by step, so this is no `rfl`. -/
theorem required_some {α : Type} (read : Json → Option α) (j : Json) :
    required read (some j) = read j := by
  rw [required, Option.bind_some]

theorem list?_ofList {α : Type} {f : α → Json} {read : Json → Option α} {as : List α}
    (h : ∀ a ∈ as, read (f a) = some a) : (ofList f as).list? read = some as := by
  have hread : as.mapM (read ∘ f) = some (as.map id) := mapM_eq_some h
  rw [ofList, list?, List.mapM_map, hread, List.map_id]

theorem exists_list? {α : Type} {f : α → Json} {read : Json → Option α} {as : List α}
    (h : ∀ a ∈ as, ∃ b, read (f a) = some b) : ∃ bs, (ofList f as).list? read = some bs := by
  rw [ofList, list?, List.mapM_map]
  exact exists_mapM h

theorem list?_eq_none {α : Type} {f : α → Json} {read : Json → Option α} {as : List α} {a : α}
    (ha : a ∈ as) (h : read (f a) = none) : (ofList f as).list? read = none := by
  rw [ofList, list?, List.mapM_map]
  exact mapM_eq_none ha h

/-! ## Plain values -/

theorem int32?_int (i : Int32) : (int i.toInt).int32? = some i := Numeral.toInt32?_ofInt i

theorem index?_int {n : Nat} (h : n < indexLimit) : (int n).index? = some n := by
  rw [int, index?, Numeral.toIndex?_ofInt h]

/-- Whether a number that is written in JSON is read as what it was. -/
def ReadsBack (x : Float32) : Prop := (Json.float32 x).float32? = some x

/-- What is not finite has no numeral. -/
theorem ofFloat32?_eq_none {l : Layout} {x : Float32} :
    Numeral.ofFloat32? l x = none ↔ x.isFinite = false := by
  have hfinite : x.isFinite = x.toModel.unpack.isFinite := rfl
  rw [hfinite]
  unfold Numeral.ofFloat32?
  cases x.toModel.unpack with
  | notANumber => exact ⟨fun _ => rfl, fun _ => rfl⟩
  | infinity sign => exact ⟨fun _ => rfl, fun _ => rfl⟩
  | zero sign => exact ⟨fun h => (by cases h), fun h => (by cases h)⟩
  | finite sign m e hm => exact ⟨fun h => (by cases h), fun h => (by cases h)⟩

/-- What is not finite is written as `null`. -/
theorem float32_eq_null {x : Float32} (h : x.isFinite = false) : float32 x = .null := by
  rw [float32, ofFloat32?_eq_none.mpr h, ofOption]

/-- What is finite is written as a number that can be read. -/
theorem exists_float32? {x : Float32} (h : x.isFinite = true) :
    ∃ y, (float32 x).float32? = some y := by
  unfold float32
  cases hn : Numeral.ofFloat32? Layout.json x with
  | none =>
    rw [ofFloat32?_eq_none.mp hn] at h
    cases h
  | some n => exact Numeral.exists_toFloat32? (Numeral.exists_toFloat?_ofFloat32? hn)

end Json

/-! ## Variables -/

theorem Slots.ofFields?_eq_some {s : Slots} {x : Float32}
    (h : (Json.float32 s.float).float32? = some x) :
    Slots.ofFields? [some (.bool s.bool), some (.int s.int.toInt), some (.float32 s.float),
      some (.text s.text)] = some { s with float := x } := by
  simp [ofFields?, Json.defaulted, Json.bool?, Json.int32?_int, h, Json.text, Json.text?]

theorem Slots.ofFields?_eq_none {s : Slots} (h : s.float.isFinite = false) :
    Slots.ofFields? [some (.bool s.bool), some (.int s.int.toInt), some (.float32 s.float),
      some (.text s.text)] = none := by
  rw [Json.float32_eq_null h]
  simp [ofFields?, Json.defaulted, Json.bool?, Json.int32?_int, Json.float32?]

namespace Variable

variable {v : Variable}

theorem fields?_toJson (v : Variable) :
    v.toJson.fields? ("name" :: Slots.fieldNames) =
      some (some (.text v.name) :: [some (.bool v.slots.bool), some (.int v.slots.int.toInt),
        some (.float32 v.slots.float), some (.text v.slots.text)]) :=
  Json.fields?_record (("name", .text v.name) :: v.slots.fields)
    (by decide : ("name" :: Slots.fieldNames).Nodup)

/-- A variable whose float reads back, reads back. -/
theorem ofJson?_toJson (h : Json.ReadsBack v.slots.float) : ofJson? v.toJson = some v := by
  rw [ofJson?, fields?_toJson, Option.bind_eq_bind, Option.bind_some]
  dsimp only
  rw [Slots.ofFields?_eq_some h]
  rfl

/-- A variable whose float is finite can be read. -/
theorem exists_ofJson? (h : v.slots.float.isFinite = true) : ∃ v', ofJson? v.toJson = some v' := by
  obtain ⟨x, hx⟩ := Json.exists_float32? h
  rw [ofJson?, fields?_toJson, Option.bind_eq_bind, Option.bind_some]
  dsimp only
  rw [Slots.ofFields?_eq_some hx]
  exact ⟨_, rfl⟩

/-- A variable whose float is not finite cannot be read. -/
theorem ofJson?_eq_none (h : v.slots.float.isFinite = false) : ofJson? v.toJson = none := by
  rw [ofJson?, fields?_toJson, Option.bind_eq_bind, Option.bind_some]
  dsimp only
  rw [Slots.ofFields?_eq_none h]
  rfl

end Variable

namespace Store

variable {s : Store}

/-- Whether the floats of a store read back. -/
def ReadsBack (s : Store) : Prop := ∀ v ∈ s.toList, Json.ReadsBack v.slots.float

/-- Whether the floats of a store are finite. -/
def IsFinite (s : Store) : Prop := ∀ v ∈ s.toList, v.slots.float.isFinite = true

/-- A store whose floats read back, reads back. -/
theorem ofJson?_toJson (h : s.ReadsBack) : ofJson? s.toJson = some s := by
  rw [ofJson?, toJson, Json.list?_ofList fun v hv => Variable.ofJson?_toJson (h v hv)]
  rfl

/-- A store whose floats are finite can be read. -/
theorem exists_ofJson? (h : s.IsFinite) : ∃ s', ofJson? s.toJson = some s' := by
  obtain ⟨vs, hvs⟩ := Json.exists_list? fun v hv => Variable.exists_ofJson? (h v hv)
  rw [ofJson?, toJson, hvs]
  exact ⟨⟨vs⟩, rfl⟩

/-- A store with a float that is not finite cannot be read. -/
theorem ofJson?_eq_none (h : ¬s.IsFinite) : ofJson? s.toJson = none := by
  obtain ⟨v, hv, hx⟩ : ∃ v ∈ s.toList, v.slots.float.isFinite ≠ true := by
    simpa [IsFinite] using h
  rw [ofJson?, toJson, Json.list?_eq_none hv (Variable.ofJson?_eq_none (by simpa using hx))]
  rfl

end Store

end DialogueTree
