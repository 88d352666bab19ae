import DialogueTree.Node.Arithmetic

/-!
# The table of changes

What each change makes of two values of one type, with sums, differences and products of integers
taken over all integers and reduced to 32 bits, and quotients cut off toward zero. There are two
ways for a change to make nothing: texts cannot be multiplied or divided, and an integer cannot be
divided by zero.

Results:
* `Change.toInt_div_eq`: a quotient needs to be reduced in one case only.
* `Change.apply_eq_updated`, `Change.apply_eq_undefined`, `Change.apply_eq_divisionByZero`: when a
  change makes which value, and when none.
-/

namespace DialogueTree.Change

/-- What a change makes of a value with an operand. Truth values can only be set, whatever the
change is. -/
inductive Yields : Change → Value → Value → Value → Prop
  | bool (c : Change) (a b : Bool) : Yields c (.bool a) (.bool b) (.bool b)
  | setInts (a b : Int32) : Yields .set (.int a) (.int b) (.int b)
  | addInts {a b i : Int32} : i.toInt = (a.toInt + b.toInt).bmod Int32.size →
      Yields .add (.int a) (.int b) (.int i)
  | subtractInts {a b i : Int32} : i.toInt = (a.toInt - b.toInt).bmod Int32.size →
      Yields .subtract (.int a) (.int b) (.int i)
  | multiplyInts {a b i : Int32} : i.toInt = (a.toInt * b.toInt).bmod Int32.size →
      Yields .multiply (.int a) (.int b) (.int i)
  | divideInts {a b i : Int32} : b ≠ 0 → ¬(a = Int32.minValue ∧ b = -1) →
      i.toInt = a.toInt.tdiv b.toInt → Yields .divide (.int a) (.int b) (.int i)
  | divideLeast : Yields .divide (.int Int32.minValue) (.int (-1)) (.int Int32.minValue)
  | setFloats (a b : Float32) : Yields .set (.float a) (.float b) (.float b)
  | addFloats (a b : Float32) : Yields .add (.float a) (.float b) (.float (a + b))
  | subtractFloats (a b : Float32) : Yields .subtract (.float a) (.float b) (.float (a - b))
  | multiplyFloats (a b : Float32) : Yields .multiply (.float a) (.float b) (.float (a * b))
  | divideFloats (a b : Float32) : Yields .divide (.float a) (.float b) (.float (a / b))
  | setTexts (a b : String) : Yields .set (.text a) (.text b) (.text b)
  | addTexts (a b : String) : Yields .add (.text a) (.text b) (.text (a ++ b))
  | subtractTexts (a b : String) :
      Yields .subtract (.text a) (.text b) (.text (Text.strip a b))

variable {c : Change} {a b v : Value}

/-- A quotient of integers is exact but where the least integer is divided by minus one. -/
theorem toInt_div_eq {a b : Int32} (h : ¬(a = Int32.minValue ∧ b = -1)) :
    (a / b).toInt = a.toInt.tdiv b.toInt := by
  by_cases ha : a = Int32.minValue
  · exact Int32.toInt_div_of_ne_right a b fun hb => h ⟨ha, hb⟩
  · exact Int32.toInt_div_of_ne_left a b ha

/-! ## Integers, numbers with a point and texts -/

theorem ofInts?_eq_some {a b i : Int32} :
    c.ofInts? a b = some i ↔ c.Yields (.int a) (.int b) (.int i) := by
  constructor
  · intro h
    cases c with
    | set =>
      cases h
      exact .setInts a b
    | add =>
      cases h
      exact .addInts (Int32.toInt_add a b)
    | subtract =>
      cases h
      exact .subtractInts (Int32.toInt_sub a b)
    | multiply =>
      cases h
      exact .multiplyInts (Int32.toInt_mul a b)
    | divide =>
      obtain ⟨hb, hi⟩ := Option.ite_none_left_eq_some.mp h
      cases hi
      by_cases hleast : a = Int32.minValue ∧ b = -1
      · obtain ⟨rfl, rfl⟩ := hleast
        exact .divideLeast
      · exact .divideInts hb hleast (toInt_div_eq hleast)
  · intro h
    cases h with
    | setInts | divideLeast => rfl
    | addInts h => rw [ofInts?, Int32.toInt_inj.mp (h.trans (Int32.toInt_add a b).symm)]
    | subtractInts h => rw [ofInts?, Int32.toInt_inj.mp (h.trans (Int32.toInt_sub a b).symm)]
    | multiplyInts h => rw [ofInts?, Int32.toInt_inj.mp (h.trans (Int32.toInt_mul a b).symm)]
    | divideInts hb hleast h =>
      rw [ofInts?, if_neg hb, Int32.toInt_inj.mp (h.trans (toInt_div_eq hleast).symm)]

theorem ofInts?_eq_none {a b : Int32} : c.ofInts? a b = none ↔ c = .divide ∧ b = 0 := by
  cases c <;> simp [ofInts?]

theorem ofFloats_eq {a b x : Float32} :
    c.ofFloats a b = x ↔ c.Yields (.float a) (.float b) (.float x) := by
  constructor
  · rintro rfl
    cases c with
    | set => exact .setFloats a b
    | add => exact .addFloats a b
    | subtract => exact .subtractFloats a b
    | multiply => exact .multiplyFloats a b
    | divide => exact .divideFloats a b
  · intro h
    cases h <;> rfl

theorem ofTexts?_eq_some {a b s : String} :
    c.ofTexts? a b = some s ↔ c.Yields (.text a) (.text b) (.text s) := by
  constructor
  · intro h
    cases c with
    | set =>
      cases h
      exact .setTexts a b
    | add =>
      cases h
      exact .addTexts a b
    | subtract =>
      cases h
      exact .subtractTexts a b
    | multiply | divide => cases h
  · intro h
    cases h <;> rfl

theorem ofTexts?_eq_none {a b : String} :
    c.ofTexts? a b = none ↔ c = .multiply ∨ c = .divide := by
  cases c <;> simp [ofTexts?]

/-! ## Values -/

theorem apply_eq_updated : c.apply a b = .updated v ↔ c.Yields a b v := by
  constructor
  · intro h
    unfold apply at h
    split at h
    next a b =>
      cases h
      exact .bool c a b
    next =>
      split at h
      next i hi =>
        cases h
        exact ofInts?_eq_some.mp hi
      next => cases h
    next =>
      cases h
      exact ofFloats_eq.mp rfl
    next =>
      split at h
      next t ht =>
        cases h
        exact ofTexts?_eq_some.mp ht
      next => cases h
    next => cases h
  · intro h
    cases a with
    | bool a =>
      cases h
      rfl
    | int a =>
      obtain ⟨b, i, rfl, rfl⟩ : ∃ b' i, b = .int b' ∧ v = .int i := by
        cases h <;> exact ⟨_, _, rfl, rfl⟩
      rw [apply, ofInts?_eq_some.mpr h]
    | float a =>
      obtain ⟨b, x, rfl, rfl⟩ : ∃ b' x, b = .float b' ∧ v = .float x := by
        cases h <;> exact ⟨_, _, rfl, rfl⟩
      rw [apply, ofFloats_eq.mpr h]
    | text a =>
      obtain ⟨b, t, rfl, rfl⟩ : ∃ b' t, b = .text b' ∧ v = .text t := by
        cases h <;> exact ⟨_, _, rfl, rfl⟩
      rw [apply, ofTexts?_eq_some.mpr h]

/-- Of two values of one type a change makes nothing if they are texts to multiply or divide. -/
theorem apply_eq_undefined (htype : a.type = b.type) :
    c.apply a b = .undefined ↔ a.type = .text ∧ (c = .multiply ∨ c = .divide) := by
  cases a <;> cases b <;> cases htype
  next => simp [apply, Value.type]
  next a b => cases hi : c.ofInts? a b <;> simp [apply, Value.type, hi]
  next => simp [apply, Value.type]
  next a b =>
    rw [← ofTexts?_eq_none (a := a) (b := b)]
    cases ht : c.ofTexts? a b <;> simp [apply, Value.type, ht]

theorem apply_eq_divisionByZero (htype : a.type = b.type) :
    c.apply a b = .divisionByZero ↔ c = .divide ∧ b = .int 0 := by
  cases a <;> cases b <;> cases htype
  next => simp [apply]
  next a b =>
    rw [Value.int.injEq, ← ofInts?_eq_none (a := a)]
    cases hi : c.ofInts? a b <;> simp [apply, hi]
  next => simp [apply]
  next a b => cases ht : c.ofTexts? a b <;> simp [apply, ht]

end DialogueTree.Change
