import DialogueTree.Node.Arithmetic

/-!
# The table of comparisons

When a comparison that a node declares holds of two values of one type. Integers are compared as
the numbers that they stand for, numbers with a point by the rules of single precision, and on
truth values "greater" and "greater or equal" stand for "and" and "or". A comparison may also mean
nothing for a type: there is no other order on truth values, numbers are not joined by "and" and
"or", and texts are equal or not.

Results:
* `Comparison.holds?_eq_true`, `Comparison.holds?_eq_none`: when a comparison holds, and when it
  means nothing.
* `Comparison.holds_eq_true`, `Comparison.holds_eq_false`: what a node makes of it.
-/

namespace DialogueTree.Comparison

/-- When a comparison that a node declares holds of two values. -/
inductive Holds : Comparison → Value → Value → Prop
  | equalBools (a : Bool) : Holds .equals (.bool a) (.bool a)
  | differentBools {a b : Bool} : a ≠ b → Holds .notEquals (.bool a) (.bool b)
  | bothTrue {c : Comparison} : c = .greater ∨ c = .and → Holds c (.bool true) (.bool true)
  | oneTrue {c : Comparison} {a b : Bool} : c = .greaterOrEqual ∨ c = .or →
      a = true ∨ b = true → Holds c (.bool a) (.bool b)
  | equalInts (a : Int32) : Holds .equals (.int a) (.int a)
  | differentInts {a b : Int32} : a ≠ b → Holds .notEquals (.int a) (.int b)
  | greaterInts {a b : Int32} : b.toInt < a.toInt → Holds .greater (.int a) (.int b)
  | greaterOrEqualInts {a b : Int32} : b.toInt ≤ a.toInt →
      Holds .greaterOrEqual (.int a) (.int b)
  | lessInts {a b : Int32} : a.toInt < b.toInt → Holds .less (.int a) (.int b)
  | lessOrEqualInts {a b : Int32} : a.toInt ≤ b.toInt → Holds .lessOrEqual (.int a) (.int b)
  | equalFloats {a b : Float32} : (a == b) = true → Holds .equals (.float a) (.float b)
  | differentFloats {a b : Float32} : (a == b) = false → Holds .notEquals (.float a) (.float b)
  | greaterFloats {a b : Float32} : b < a → Holds .greater (.float a) (.float b)
  | greaterOrEqualFloats {a b : Float32} : b ≤ a → Holds .greaterOrEqual (.float a) (.float b)
  | lessFloats {a b : Float32} : a < b → Holds .less (.float a) (.float b)
  | lessOrEqualFloats {a b : Float32} : a ≤ b → Holds .lessOrEqual (.float a) (.float b)
  | equalTexts (a : String) : Holds .equals (.text a) (.text a)
  | differentTexts {a b : String} : a ≠ b → Holds .notEquals (.text a) (.text b)

/-- When a comparison that a node declares means nothing for its type. -/
def Undefined (c : Comparison) : ValueType → Prop
  | .bool => c = .less ∨ c = .lessOrEqual
  | .int | .float => c = .and ∨ c = .or
  | .text => c ≠ .equals ∧ c ≠ .notEquals

variable {c : Comparison} {type : ValueType} {left right : Value}

/-! ## Type by type -/

theorem holds?_bools {a b : Bool} :
    (c.forType .bool).holds? (.bool a) (.bool b) = some true ↔ c.Holds (.bool a) (.bool b) := by
  constructor
  · intro h
    cases c with
    | equals =>
      obtain rfl : a = b := by simpa [forType, holds?] using h
      exact .equalBools a
    | notEquals => exact .differentBools (by simpa [forType, holds?] using h)
    | greater | and =>
      obtain ⟨rfl, rfl⟩ : a = true ∧ b = true := by simpa [forType, holds?] using h
      exact .bothTrue (by simp)
    | greaterOrEqual | or => exact .oneTrue (by simp) (by simpa [forType, holds?] using h)
    | less | lessOrEqual => simp [forType, holds?] at h
  · intro h
    cases h with
    | equalBools => simp [forType, holds?]
    | differentBools hne => simpa [forType, holds?] using hne
    | bothTrue hc => rcases hc with rfl | rfl <;> rfl
    | oneTrue hc hone => rcases hc with rfl | rfl <;> simpa [forType, holds?] using hone

theorem holds?_ints {a b : Int32} :
    c.holds? (.int a) (.int b) = some true ↔ c.Holds (.int a) (.int b) := by
  constructor
  · intro h
    cases c with
    | equals =>
      obtain rfl : a = b := by simpa [holds?, onOrder] using h
      exact .equalInts a
    | notEquals => exact .differentInts (by simpa [holds?, onOrder] using h)
    | greater =>
      exact .greaterInts (Int32.lt_iff_toInt_lt.mp (by simpa [holds?, onOrder] using h))
    | greaterOrEqual =>
      exact .greaterOrEqualInts (Int32.le_iff_toInt_le.mp (by simpa [holds?, onOrder] using h))
    | less => exact .lessInts (Int32.lt_iff_toInt_lt.mp (by simpa [holds?, onOrder] using h))
    | lessOrEqual =>
      exact .lessOrEqualInts (Int32.le_iff_toInt_le.mp (by simpa [holds?, onOrder] using h))
    | and | or => cases h
  · intro h
    cases h with
    | equalInts => simp [holds?, onOrder]
    | differentInts hne => simpa [holds?, onOrder] using hne
    | greaterInts h | lessInts h => simpa [holds?, onOrder] using Int32.lt_iff_toInt_lt.mpr h
    | greaterOrEqualInts h | lessOrEqualInts h =>
      simpa [holds?, onOrder] using Int32.le_iff_toInt_le.mpr h

theorem holds?_floats {a b : Float32} :
    c.holds? (.float a) (.float b) = some true ↔ c.Holds (.float a) (.float b) := by
  constructor
  · intro h
    cases c with
    | equals => exact .equalFloats (Option.some.inj h)
    | notEquals =>
      have hne : (!(a == b)) = true := Option.some.inj h
      exact .differentFloats (by simpa using hne)
    | greater => exact .greaterFloats (by simpa [holds?, onOrder] using h)
    | greaterOrEqual => exact .greaterOrEqualFloats (by simpa [holds?, onOrder] using h)
    | less => exact .lessFloats (by simpa [holds?, onOrder] using h)
    | lessOrEqual => exact .lessOrEqualFloats (by simpa [holds?, onOrder] using h)
    | and | or => cases h
  · intro h
    cases h with
    | equalFloats h => exact congrArg some h
    | differentFloats h => exact congrArg (fun e => some (!e)) h
    | greaterFloats h | greaterOrEqualFloats h | lessFloats h | lessOrEqualFloats h =>
      simpa [holds?, onOrder] using h

theorem holds?_texts {a b : String} :
    c.holds? (.text a) (.text b) = some true ↔ c.Holds (.text a) (.text b) := by
  constructor
  · intro h
    cases c with
    | equals =>
      obtain rfl : a = b := by simpa [holds?] using h
      exact .equalTexts a
    | notEquals => exact .differentTexts (by simpa [holds?] using h)
    | _ => cases h
  · intro h
    cases h with
    | equalTexts => simp [holds?]
    | differentTexts hne => simpa [holds?] using hne

/-- Only on truth values does a comparison stand for another one. -/
theorem forType_eq_self (c : Comparison) (type : ValueType) (h : type ≠ .bool) :
    c.forType type = c := by
  cases c <;> cases type <;> first | rfl | exact absurd rfl h

theorem onOrder_eq_none {α : Type} {eq less lessOrEqual : α → α → Bool} {a b : α} :
    c.onOrder eq less lessOrEqual a b = none ↔ c = .and ∨ c = .or := by
  cases c <;> simp [onOrder]

/-! ## Any type -/

/-- A comparison holds of two values of a type as the table says. -/
theorem holds?_eq_true (hleft : left.type = type) (hright : right.type = type) :
    (c.forType type).holds? left right = some true ↔ c.Holds left right := by
  cases type <;> cases left <;> cases hleft <;> cases right <;> cases hright
  · exact holds?_bools
  · rw [forType_eq_self c .int nofun]
    exact holds?_ints
  · rw [forType_eq_self c .float nofun]
    exact holds?_floats
  · rw [forType_eq_self c .text nofun]
    exact holds?_texts

/-- A comparison that means nothing for a type has no outcome, whatever the values are. -/
theorem holds?_eq_none (hleft : left.type = type) (hright : right.type = type) :
    (c.forType type).holds? left right = none ↔ c.Undefined type := by
  cases type <;> cases left <;> cases hleft <;> cases right <;> cases hright
  · cases c <;> simp [forType, holds?, Undefined]
  · rw [forType_eq_self c .int nofun]
    simp only [holds?, onOrder_eq_none, Undefined]
  · rw [forType_eq_self c .float nofun]
    simp only [holds?, onOrder_eq_none, Undefined]
  · cases c <;> simp [forType, holds?, Undefined]

theorem holds_eq_true (hleft : left.type = type) (hright : right.type = type) :
    (c.forType type).holds left right = true ↔ c.Holds left right := by
  rw [← holds?_eq_true hleft hright, holds]
  cases (c.forType type).holds? left right <;> simp

/-- A comparison that means nothing counts as one that does not hold. -/
theorem holds_eq_false (hleft : left.type = type) (hright : right.type = type) :
    (c.forType type).holds left right = false ↔ c.Undefined type ∨ ¬c.Holds left right := by
  rw [← holds?_eq_true hleft hright, ← holds?_eq_none hleft hright, holds]
  rcases (c.forType type).holds? left right with _ | _ | _ <;> simp

end DialogueTree.Comparison
