import DialogueTree.Store
import Mathlib.Data.List.Nodup
import Mathlib.Logic.Function.Basic

/-!
# Stores as maps

A store keeps its variables in a row, and a name means the first one that has it in lower case. As
long as no two variables have the same name in lower case, a store is a map all the same: from
names in lower case, in the order in which they were added, to records of one slot for each type.
Setting, adding and removing variables keep it so.

Results:
* `Store.Represents.get?_eq`, `Store.Represents.indexOf?_eq`, `Store.Represents.names_eq`: what is
  asked of a store is answered by the map that it is.
* `Store.Represents.unique`: no two stores are one map.
* `Store.Represents.act`: one operation on both.
* `Store.run_register`: operations of any number.
-/

namespace DialogueTree

/-! ## Maps in the order of insertion -/

/-- What a map holds under a key: a name as it was first written, and one value of each type. -/
structure Record where
  name : String
  slot : ValueType → Value
  typed : ∀ t, (slot t).type = t

/-- The record of a variable. -/
def Record.ofVariable (v : Variable) : Record := ⟨v.name, v.value, v.slots.type_get⟩

/-- Writes a value to the slot of its type. -/
def Record.write (r : Record) (a : Value) : Record where
  name := r.name
  slot := Function.update r.slot a.type a
  typed := by
    intro t
    by_cases h : t = a.type
    · rw [h, Function.update_self]
    · rw [Function.update_of_ne h, r.typed]

/-- A map that knows in which order its keys were added. -/
structure Register where
  keys : List String
  record? : String → Option Record
  nodup : keys.Nodup
  mem_keys : ∀ k, k ∈ keys ↔ (record? k).isSome

namespace Register

/-- Writes a value under a key, and says whether the key is there. -/
def set (m : Register) (k : String) (a : Value) : Bool × Register :=
  (decide (k ∈ m.keys),
    { m with
      record? := Function.update m.record? k ((m.record? k).map (·.write a))
      mem_keys := by
        intro k'
        by_cases h : k' = k
        · rw [h, Function.update_self, Option.isSome_map, m.mem_keys]
        · rw [Function.update_of_ne h, m.mem_keys] })

/-- Adds a record under a new key, and says whether the key is new. -/
def add (m : Register) (k : String) (r : Record) : Bool × Register :=
  if h : k ∈ m.keys then (false, m)
  else (true,
    { keys := m.keys ++ [k]
      record? := Function.update m.record? k (some r)
      nodup := List.nodup_append.mpr ⟨m.nodup, List.nodup_singleton k,
        fun a ha b hb hab => h (List.mem_singleton.mp hb ▸ hab ▸ ha)⟩
      mem_keys := by
        intro k'
        rw [List.mem_append, List.mem_singleton]
        by_cases hk : k' = k
        · simp [hk]
        · simp [hk, m.mem_keys] })

/-- Removes a key with its record, and says whether the key was there. -/
def remove (m : Register) (k : String) : Bool × Register :=
  (decide (k ∈ m.keys),
    { keys := m.keys.erase k
      record? := Function.update m.record? k none
      nodup := m.nodup.erase k
      mem_keys := by
        intro k'
        rw [m.nodup.mem_erase_iff]
        by_cases h : k' = k
        · simp [h]
        · simp [h, m.mem_keys] })

variable (m : Register) (k : String)

theorem add_of_mem {k : String} (h : k ∈ m.keys) (r : Record) : m.add k r = (false, m) := dif_pos h

section New

variable {m k} (h : k ∉ m.keys) (r : Record)

include h

theorem add_fst : (m.add k r).1 = true := by rw [add, dif_neg h]

theorem keys_add : (m.add k r).2.keys = m.keys ++ [k] := by rw [add, dif_neg h]

theorem record?_add : (m.add k r).2.record? = Function.update m.record? k (some r) := by
  rw [add, dif_neg h]

end New

theorem record?_eq_none {k : String} (h : k ∉ m.keys) : m.record? k = none := by
  rw [m.mem_keys] at h
  simpa using h

end Register

/-! ## Operations -/

namespace Store

/-- What changes a store. -/
inductive Operation where
  | set (name : String) (value : Value)
  | add (v : Variable)
  | remove (name : String)

/-- The store after an operation that succeeds. -/
def perform? (s : Store) : Operation → Option Store
  | .set name value => s.set? name value
  | .add v => s.insert? v
  | .remove name => s.erase? name

/-- The store after an operation, and whether the operation succeeds. -/
def act (s : Store) (o : Operation) : Bool × Store :=
  match s.perform? o with
  | some after => (true, after)
  | none => (false, s)

/-- A store after operations, and which of them succeed. -/
def run (s : Store) : List Operation → List Bool × Store
  | [] => ([], s)
  | o :: rest => ((s.act o).1 :: ((s.act o).2.run rest).1, ((s.act o).2.run rest).2)

end Store

namespace Register

/-- A map after an operation, and what the operation says. -/
def act (m : Register) : Store.Operation → Bool × Register
  | .set name value => m.set (Text.lower name) value
  | .add v => m.add (Text.lower v.name) (.ofVariable v)
  | .remove name => m.remove (Text.lower name)

/-- A map after operations, and what they say. -/
def run (m : Register) : List Store.Operation → List Bool × Register
  | [] => ([], m)
  | o :: rest => ((m.act o).1 :: ((m.act o).2.run rest).1, ((m.act o).2.run rest).2)

end Register

/-! ## Stores and their maps -/

/-- The key of a variable. -/
def Variable.key (v : Variable) : String := Text.lower v.name

@[simp] theorem Variable.key_assign (v : Variable) (a : Value) : (v.assign a).key = v.key := rfl

theorem Record.ofVariable_assign (v : Variable) (a : Value) :
    ofVariable (v.assign a) = (ofVariable v).write a := by
  unfold ofVariable write
  congr 1
  funext t
  by_cases h : t = a.type
  · rw [h, Function.update_self]
    exact v.slots.get_set a
  · rw [Function.update_of_ne h]
    exact v.slots.get_set_of_ne h

theorem Record.ofVariable_injective : Function.Injective ofVariable := by
  rintro ⟨name, slots⟩ ⟨name', slots'⟩ h
  have hslot : slots.get = slots'.get := congrArg Record.slot h
  have hslots : slots = slots' := by
    rcases slots with ⟨b, i, x, t⟩
    rcases slots' with ⟨b', i', x', t'⟩
    have hb := congrFun hslot .bool
    have hi := congrFun hslot .int
    have hx := congrFun hslot .float
    have ht := congrFun hslot .text
    simp only [Slots.get, Value.bool.injEq, Value.int.injEq, Value.float.injEq,
      Value.text.injEq] at hb hi hx ht
    rw [hb, hi, hx, ht]
  have hname : name = name' := congrArg Record.name h
  rw [hname, hslots]

namespace Store

variable {s : Store} {m : Register}

/-- The keys of the variables in order. -/
def keys (s : Store) : List String := s.toList.map (·.key)

/-- Whether no two variables have the same name in lower case. -/
def Distinct (s : Store) : Prop := s.keys.Nodup

/-- The record of the first variable with a key. -/
def record? (s : Store) (k : String) : Option Record :=
  (s.toList.find? (·.key == k)).map .ofVariable

/-- The map that a store of distinct names is. -/
def register (s : Store) (h : s.Distinct) : Register where
  keys := s.keys
  record? := s.record?
  nodup := h
  mem_keys := by simp [keys, record?]

/-- Whether a store holds what a map does, in the same order. -/
structure Represents (s : Store) (m : Register) : Prop where
  keys : s.keys = m.keys
  record : s.record? = m.record?

theorem represents_register (s : Store) (h : s.Distinct) : s.Represents (s.register h) := ⟨rfl, rfl⟩

theorem Represents.distinct (h : s.Represents m) : s.Distinct := by
  unfold Distinct
  rw [h.keys]
  exact m.nodup

/-! ## What is asked of a store -/

theorem find?_eq (s : Store) (name : String) :
    s.find? name = s.toList.find? (·.key == Text.lower name) :=
  List.find?_eq_bind_findIdx?_getElem?.symm

theorem indexOf?_eq (s : Store) (name : String) :
    s.indexOf? name = s.keys.idxOf? (Text.lower name) := by
  rw [keys, List.idxOf?, List.findIdx?_map]
  rfl

theorem indexOf?_eq_none {name : String} : s.indexOf? name = none ↔ Text.lower name ∉ s.keys := by
  rw [indexOf?_eq, List.idxOf?_eq_none_iff]

/-- A name means no variable, or the first one with its key. -/
theorem name_cases (s : Store) (name : String) :
    (Text.lower name ∉ s.keys ∧ (∀ a, s.set? name a = none) ∧ s.erase? name = none) ∨
    ∃ before v after, s.toList = before ++ v :: after ∧ v.key = Text.lower name ∧
      (∀ w ∈ before, w.key ≠ v.key) ∧
      (∀ a, s.set? name a = some ⟨before ++ v.assign a :: after⟩) ∧
      s.erase? name = some ⟨before ++ after⟩ := by
  unfold set? erase?
  cases hi : s.indexOf? name with
  | none => exact .inl ⟨indexOf?_eq_none.mp hi, fun _ => rfl, rfl⟩
  | some i =>
    obtain ⟨hlt, hkey, hbefore⟩ := List.findIdx?_eq_some_iff_getElem.mp hi
    have hkey : (s.toList[i]).key = Text.lower name := beq_iff_eq.mp hkey
    refine .inr ⟨s.toList.take i, s.toList[i], s.toList.drop (i + 1), ?_, hkey, ?_, ?_, ?_⟩
    · rw [List.getElem_cons_drop, List.take_append_drop]
    · intro w hw
      obtain ⟨j, hj, rfl⟩ := List.mem_take_iff_getElem.mp hw
      rw [hkey]
      simpa [sameName, Variable.key] using hbefore j (by omega)
    · intro a
      dsimp only
      rw [assignAt?, if_pos hlt, List.modify_eq_take_cons_drop hlt]
    · dsimp only
      rw [List.eraseIdx_eq_take_drop_succ]

/-- The first variable with the key of a variable is that variable, where keys are distinct. -/
theorem Distinct.find?_eq (h : s.Distinct) {v : Variable} (hv : v ∈ s.toList) :
    s.toList.find? (·.key == v.key) = some v := by
  obtain ⟨before, after, hs⟩ := List.append_of_mem hv
  unfold Distinct keys at h
  rw [hs, List.map_append, List.map_cons, List.nodup_middle, List.nodup_cons] at h
  rw [List.find?_eq_some_iff_append]
  refine ⟨beq_self_eq_true _, before, after, hs, fun w hw => ?_⟩
  have hne : w.key ≠ v.key := fun heq =>
    h.1 (List.mem_append_left _ (heq ▸ List.mem_map_of_mem hw))
  simpa using hne

namespace Represents

theorem get?_eq (h : s.Represents m) (name : String) (t : ValueType) :
    s.get? name t = (m.record? (Text.lower name)).map (·.slot t) := by
  rw [get?, find?_eq, ← h.record, record?, Option.map_map]
  rfl

theorem indexOf?_eq (h : s.Represents m) (name : String) :
    s.indexOf? name = m.keys.idxOf? (Text.lower name) := by
  rw [s.indexOf?_eq, h.keys]

theorem records_eq (h : s.Represents m) :
    s.toList.map .ofVariable = m.keys.filterMap m.record? := by
  rw [← h.keys, ← h.record, Store.keys, List.filterMap_map, ← List.filterMap_eq_map]
  refine List.filterMap_congr fun v hv => ?_
  rw [Function.comp_apply, Function.comp_apply, record?, h.distinct.find?_eq hv]
  rfl

theorem names_eq (h : s.Represents m) :
    s.names = (m.keys.filterMap m.record?).map (·.name) := by
  rw [← h.records_eq, List.map_map]
  rfl

/-- A map says all about the store that it is. -/
theorem unique {s' : Store} (h : s.Represents m) (h' : s'.Represents m) : s = s' := by
  have hrow : s.toList = s'.toList :=
    List.map_injective_iff.mpr Record.ofVariable_injective (h.records_eq.trans h'.records_eq.symm)
  rcases s with ⟨row⟩
  exact congrArg Store.mk hrow

end Represents

/-! ## One operation -/

/-- A variable in the middle, of a key that is not before it, adds its record to those of the
others. -/
theorem record?_append_cons {before after : List Variable} {v : Variable}
    (h : ∀ w ∈ before, w.key ≠ v.key) : record? ⟨before ++ v :: after⟩ =
      Function.update (record? ⟨before ++ after⟩) v.key (some (.ofVariable v)) := by
  funext k
  unfold record?
  dsimp only
  rw [List.find?_append, List.find?_cons]
  by_cases hk : v.key = k
  · have hbefore : before.find? (·.key == k) = none := by
      rw [List.find?_eq_none]
      intro w hw
      simpa [← hk] using h w hw
    rw [hbefore, beq_iff_eq.mpr hk, ← hk, Function.update_self]
    rfl
  · rw [beq_false_of_ne hk, Function.update_of_ne (Ne.symm hk), List.find?_append]

theorem record?_eq_none {k : String} (h : k ∉ s.keys) : s.record? k = none := by
  have hfind : s.toList.find? (·.key == k) = none := by
    rw [List.find?_eq_none]
    intro v hv
    simpa using fun heq : v.key = k => h (heq ▸ List.mem_map_of_mem hv)
  rw [record?, hfind, Option.map_none]

theorem act_of_some {o : Operation} {after : Store} (h : s.perform? o = some after) :
    s.act o = (true, after) := by
  unfold act
  rw [h]

theorem act_of_none {o : Operation} (h : s.perform? o = none) : s.act o = (false, s) := by
  unfold act
  rw [h]

namespace Represents

theorem set (h : s.Represents m) (name : String) (a : Value) :
    (s.act (.set name a)).1 = (m.set (Text.lower name) a).1 ∧
      (s.act (.set name a)).2.Represents (m.set (Text.lower name) a).2 := by
  rcases s.name_cases name with ⟨hkey, hset, -⟩ |
    ⟨before, v, after, hs, hkey, hbefore, hset, -⟩
  · have hnone : s.perform? (.set name a) = none := hset a
    rw [h.keys] at hkey
    rw [act_of_none hnone]
    refine ⟨(decide_eq_false hkey).symm, h.keys, ?_⟩
    calc s.record? = m.record? := h.record
      _ = Function.update m.record? (Text.lower name)
          ((m.record? (Text.lower name)).map (·.write a)) := by
        rw [m.record?_eq_none hkey, Option.map_none, ← m.record?_eq_none hkey,
          Function.update_eq_self]
  · have hsome : s.perform? (.set name a) = some ⟨before ++ v.assign a :: after⟩ := hset a
    have hmem : Text.lower name ∈ m.keys := by
      rw [← h.keys, ← hkey, Store.keys, hs]
      simp
    have hrecord : m.record? =
        Function.update (Store.record? ⟨before ++ after⟩) v.key (some (.ofVariable v)) := by
      rw [← h.record, ← record?_append_cons hbefore, ← hs]
    rw [act_of_some hsome]
    refine ⟨(decide_eq_true hmem).symm, ?_, ?_⟩
    · refine Eq.trans ?_ h.keys
      simp [Store.keys, hs]
    · calc Store.record? ⟨before ++ v.assign a :: after⟩
        _ = Function.update (Store.record? ⟨before ++ after⟩) v.key
            (some ((Record.ofVariable v).write a)) := by
          rw [record?_append_cons (v := v.assign a) hbefore, Record.ofVariable_assign,
            Variable.key_assign]
        _ = Function.update m.record? v.key ((m.record? v.key).map (·.write a)) := by
          rw [hrecord, Function.update_idem, Function.update_self, Option.map_some]
        _ = (m.set (Text.lower name) a).2.record? := by rw [hkey]; rfl

theorem add (h : s.Represents m) (v : Variable) :
    (s.act (.add v)).1 = (m.add v.key (.ofVariable v)).1 ∧
      (s.act (.add v)).2.Represents (m.add v.key (.ofVariable v)).2 := by
  cases hi : s.indexOf? v.name with
  | some i =>
    have hkey : v.key ∈ m.keys := by
      by_contra hkey
      rw [← h.keys] at hkey
      rw [indexOf?_eq_none.mpr hkey] at hi
      contradiction
    have hnone : s.perform? (.add v) = none := by simp only [perform?, insert?, hi]
    rw [act_of_none hnone, m.add_of_mem hkey]
    exact ⟨rfl, h⟩
  | none =>
    have hkey : v.key ∉ s.keys := indexOf?_eq_none.mp hi
    have hsome : s.perform? (.add v) = some ⟨s.toList ++ [v]⟩ := by
      simp only [perform?, insert?, hi]
    have hbefore : ∀ w ∈ s.toList, w.key ≠ v.key := fun w hw heq =>
      hkey (heq ▸ List.mem_map_of_mem hw)
    rw [h.keys] at hkey
    rw [act_of_some hsome]
    refine ⟨(m.add_fst hkey _).symm, ?_, ?_⟩
    · rw [m.keys_add hkey, ← h.keys, Store.keys, List.map_append]
      rfl
    · rw [m.record?_add hkey, ← h.record, record?_append_cons hbefore, List.append_nil]

theorem remove (h : s.Represents m) (name : String) :
    (s.act (.remove name)).1 = (m.remove (Text.lower name)).1 ∧
      (s.act (.remove name)).2.Represents (m.remove (Text.lower name)).2 := by
  rcases s.name_cases name with ⟨hkey, -, herase⟩ |
    ⟨before, v, after, hs, hkey, hbefore, -, herase⟩
  · have hnone : s.perform? (.remove name) = none := herase
    rw [h.keys] at hkey
    rw [act_of_none hnone]
    refine ⟨(decide_eq_false hkey).symm, ?_, ?_⟩
    · calc s.keys = m.keys := h.keys
        _ = m.keys.erase (Text.lower name) := (List.erase_of_not_mem hkey).symm
    · calc s.record? = m.record? := h.record
        _ = Function.update m.record? (Text.lower name) none := by
          rw [← m.record?_eq_none hkey, Function.update_eq_self]
  · have hsome : s.perform? (.remove name) = some ⟨before ++ after⟩ := herase
    have hkeys : m.keys = before.map (·.key) ++ v.key :: after.map (·.key) := by
      rw [← h.keys, Store.keys, hs, List.map_append, List.map_cons]
    have hrest : Store.keys ⟨before ++ after⟩ = m.keys.erase v.key := by
      have hnew : v.key ∉ before.map (·.key) := fun hv => by
        obtain ⟨w, hw, heq⟩ := List.mem_map.mp hv
        exact hbefore w hw heq
      rw [hkeys, List.erase_append_right _ hnew, List.erase_cons_head, Store.keys, List.map_append]
    have hrecord : m.record? =
        Function.update (Store.record? ⟨before ++ after⟩) v.key (some (.ofVariable v)) := by
      rw [← h.record, ← record?_append_cons hbefore, ← hs]
    have hnone : Store.record? ⟨before ++ after⟩ v.key = none := by
      refine Store.record?_eq_none ?_
      rw [hrest]
      exact m.nodup.not_mem_erase
    rw [act_of_some hsome]
    refine ⟨(decide_eq_true ?_).symm, ?_, ?_⟩
    · rw [hkeys, ← hkey]
      simp
    · rw [hrest, hkey]
      rfl
    · calc Store.record? ⟨before ++ after⟩
        _ = Function.update m.record? v.key none := by
          rw [hrecord, Function.update_idem, ← hnone, Function.update_eq_self]
        _ = (m.remove (Text.lower name)).2.record? := by rw [hkey]; rfl

theorem act (h : s.Represents m) (o : Operation) :
    (s.act o).1 = (m.act o).1 ∧ (s.act o).2.Represents (m.act o).2 := by
  cases o with
  | set name a => exact h.set name a
  | add v => exact h.add v
  | remove name => exact h.remove name

/-! ## Operations of any number -/

theorem run (h : s.Represents m) (ops : List Operation) :
    (s.run ops).1 = (m.run ops).1 ∧ (s.run ops).2.Represents (m.run ops).2 := by
  induction ops generalizing s m with
  | nil => exact ⟨rfl, h⟩
  | cons o rest ih =>
    obtain ⟨hanswer, hafter⟩ := h.act o
    obtain ⟨hanswers, hend⟩ := ih hafter
    exact ⟨List.cons_eq_cons.mpr ⟨hanswer, hanswers⟩, hend⟩

end Represents

/-- A store of distinct names is a map in the order of insertion: after operations of any number it
is the store that the map then is and no other, with the same successes on the way, and it answers
what is asked of it as the map does. -/
theorem run_register (h : s.Distinct) (ops : List Operation) :
    (s.run ops).2.Distinct ∧
    (s.run ops).1 = ((s.register h).run ops).1 ∧
    (∀ s', s'.Represents ((s.register h).run ops).2 ↔ s' = (s.run ops).2) ∧
    (∀ name t, (s.run ops).2.get? name t =
      (((s.register h).run ops).2.record? (Text.lower name)).map (·.slot t)) ∧
    (∀ name, (s.run ops).2.indexOf? name =
      ((s.register h).run ops).2.keys.idxOf? (Text.lower name)) ∧
    (s.run ops).2.names =
      (((s.register h).run ops).2.keys.filterMap ((s.register h).run ops).2.record?).map
        (·.name) := by
  obtain ⟨hanswers, hend⟩ := (s.represents_register h).run ops
  refine ⟨hend.distinct, hanswers, fun s' => ⟨fun hs' => hs'.unique hend, ?_⟩, hend.get?_eq,
    hend.indexOf?_eq, hend.names_eq⟩
  rintro rfl
  exact hend

/-- What is in a purse, and whose it is. -/
def purse : Store :=
  ⟨[⟨"Gold", { int := 5 }⟩, ⟨"Owner", { text := "Ada" }⟩, ⟨"Silver", { int := 9 }⟩]⟩

/-- A name in other letters is the same name, and a name that was removed can be added again. -/
def purseChanges : List Operation :=
  [.set "GOLD" (.bool true), .add ⟨"gold", { int := 1 }⟩, .remove "OWNER", .set "owner" (.int 3),
    .add ⟨"OWNER", { int := 4 }⟩]

theorem purse_distinct : purse.Distinct := by
  unfold Distinct
  decide +kernel

theorem run_register_purse :
    purse.Distinct ∧
    (purse.run purseChanges).2.Distinct ∧
    (purse.run purseChanges).1 = [true, false, true, false, true] ∧
    (purse.run purseChanges).2.get? "gold" .int = some (.int 5) ∧
    (purse.run purseChanges).2.get? "gold" .bool = some (.bool true) ∧
    (purse.run purseChanges).2.get? "owner" .int = some (.int 4) ∧
    (purse.run purseChanges).2.indexOf? "owner" = some 2 ∧
    (purse.run purseChanges).2.names = ["Gold", "Silver", "OWNER"] := by
  obtain ⟨hdistinct, hanswers, -, hget, hindex, hnames⟩ := run_register purse_distinct purseChanges
  rw [hanswers, hget, hget, hget, hindex, hnames]
  refine ⟨purse_distinct, hdistinct, ?_⟩
  decide +kernel

end Store

end DialogueTree
