import DialogueTree.Decimal.Whole

/-!
# Numerals read back

A numeral that has been written is read as what it was, however its exponent is signed, and the
numeral of an integer has the value of the integer.

Results:
* `parse?_chars`: reading undoes writing.
* `toInt?_ofInt`, `toIndex?_ofInt`, `toInt32?_ofInt`: the values of integers.
* `Whole.nat?_toString`, `Whole.index?_toString`: a natural number that has been typed.
-/

namespace DialogueTree

theorem Digit.ofChar?_char (d : Digit) : Digit.ofChar? d.char = some d := by
  revert d
  decide

/-- The characters of numerals that are not digits. -/
theorem Digit.char_ne (d : Digit) : d.char ≠ '-' ∧ d.char ≠ '+' ∧ d.char ≠ '.' := by
  revert d
  decide

namespace Numeral

/-! ## Digits -/

/-- Whether a text does not go on with a digit. -/
def EndsDigits (cs : List Char) : Prop := ∀ c ∈ cs.head?, Digit.ofChar? c = none

theorem spanDigits_map (ds : List Digit) {rest : List Char} (h : EndsDigits rest) :
    spanDigits (ds.map Digit.char ++ rest) = (ds, rest) := by
  induction ds with
  | nil =>
    cases rest with
    | nil => rfl
    | cons c cs =>
      have hc : Digit.ofChar? c = none := h c rfl
      rw [List.map_nil, List.nil_append, spanDigits, hc]
  | cons d ds ih =>
    rw [List.map_cons, List.cons_append, spanDigits, Digit.ofChar?_char, ih]

theorem ofDigits_concat (ds : List Digit) (d : Digit) :
    ofDigits (ds ++ [d]) = 10 * ofDigits ds + d.val := by
  simp [ofDigits]

/-- The digits of a natural number, no zero too many at the front. -/
theorem exists_digits (n : Nat) : ∃ d ds, Nat.toDigits 10 n = (d :: ds).map Digit.char ∧
    ofDigits (d :: ds) = n ∧ (n = 0 → ds = []) ∧ (n ≠ 0 → d ≠ Digit.zero) := by
  induction n using Nat.strongRecOn with
  | ind n ih =>
    by_cases hlt : n < 10
    · refine ⟨⟨n, hlt⟩, [], Nat.toDigits_of_lt_base hlt, ?_, fun _ => rfl, ?_⟩
      · simp [ofDigits]
      · intro hn hd
        exact hn (congrArg Fin.val hd)
    · obtain ⟨d, ds, hchars, hvalue, -, hhead⟩ := ih (n / 10) (by omega)
      have hlast : n % 10 < 10 := by omega
      refine ⟨d, ds ++ [⟨n % 10, hlast⟩], ?_, ?_, by omega, fun _ => hhead (by omega)⟩
      · rw [Nat.toDigits_of_base_le (by omega) (by omega), hchars]
        simp [Digit.char]
      · rw [← List.cons_append, ofDigits_concat, hvalue]
        dsimp only
        omega

theorem whole?_of_digits {d : Digit} {ds : List Digit} {n : Nat} (hvalue : ofDigits (d :: ds) = n)
    (hzero : n = 0 → ds = []) (hhead : n ≠ 0 → d ≠ Digit.zero) : whole? (d :: ds) = some n := by
  cases ds with
  | nil =>
    have hd : d.val = n := by simpa [ofDigits] using hvalue
    rw [whole?, hd]
  | cons d' ds =>
    have hn : n ≠ 0 := fun hn => by cases hzero hn
    rw [whole?, if_neg (hhead hn), hvalue]
    intro h
    cases h

/-- A whole part reads back, whatever follows that is not a digit. -/
theorem exists_span (n : Nat) {rest : List Char} (h : EndsDigits rest) :
    ∃ ds, spanDigits (Nat.toDigits 10 n ++ rest) = (ds, rest) ∧ whole? ds = some n := by
  obtain ⟨d, ds, hchars, hvalue, hzero, hhead⟩ := exists_digits n
  exact ⟨d :: ds, by rw [hchars, spanDigits_map _ h], whole?_of_digits hvalue hzero hhead⟩

/-! ## Parts of a numeral -/

theorem exponentDigits?_toDigits (negative : Bool) (n : Nat) :
    exponentDigits? negative (Nat.toDigits 10 n) = some (if negative then -(n : Int) else n) := by
  obtain ⟨d, ds, hchars, hvalue, -, -⟩ := exists_digits n
  have hspan : spanDigits ((d :: ds).map Digit.char ++ []) = (d :: ds, []) :=
    spanDigits_map (d :: ds) (by simp [EndsDigits])
  rw [List.append_nil] at hspan
  unfold exponentDigits?
  rw [hchars, hspan]
  dsimp only
  rw [hvalue]

/-- The first character of a natural number is no sign. -/
theorem exists_head (n : Nat) :
    ∃ c cs, Nat.toDigits 10 n = c :: cs ∧ c ≠ '-' ∧ c ≠ '+' ∧ c ≠ '.' := by
  obtain ⟨d, ds, hchars, -⟩ := exists_digits n
  exact ⟨d.char, ds.map Digit.char, hchars, d.char_ne⟩

theorem exponent?_minus (cs : List Char) :
    exponent? ('e' :: '-' :: cs) = some <$> exponentDigits? true cs := by
  simp [exponent?]

theorem exponent?_plus (cs : List Char) :
    exponent? ('e' :: '+' :: cs) = some <$> exponentDigits? false cs := by
  simp [exponent?]

theorem exponent?_digits (n : Nat) :
    exponent? ('e' :: Nat.toDigits 10 n) = some <$> exponentDigits? false (Nat.toDigits 10 n) := by
  obtain ⟨c, cs, hchars, hminus, hplus, -⟩ := exists_head n
  rw [hchars]
  simp [exponent?, hminus, hplus]

theorem exponent?_exponentChars (spelling : Spelling) (e : Int) :
    exponent? ('e' :: exponentChars spelling e) = some (some e) := by
  unfold exponentChars
  by_cases hneg : e < 0
  · have hvalue : -(e.natAbs : Int) = e := by omega
    rw [if_pos hneg, List.singleton_append, exponent?_minus, exponentDigits?_toDigits, if_pos rfl,
      hvalue]
    rfl
  · have hvalue : (e.natAbs : Int) = e := by omega
    have hdigits : exponentDigits? false (Nat.toDigits 10 e.natAbs) = some e := by
      rw [exponentDigits?_toDigits, if_neg Bool.false_ne_true, hvalue]
    rw [if_neg hneg]
    cases spelling.plus with
    | true =>
      rw [if_pos rfl, List.singleton_append, exponent?_plus, hdigits]
      rfl
    | false =>
      rw [if_neg Bool.false_ne_true, List.nil_append, exponent?_digits, hdigits]
      rfl

/-- What is written after the digits of a fraction. -/
def exponentTail (spelling : Spelling) (n : Numeral) : List Char :=
  match n.exponent with
  | none => []
  | some e => 'e' :: exponentChars spelling e

/-- What is written after the whole part. -/
def fractionTail (spelling : Spelling) (n : Numeral) : List Char :=
  (if n.fraction = [] then [] else '.' :: n.fraction.map Digit.char) ++ n.exponentTail spelling

theorem chars_eq (spelling : Spelling) (n : Numeral) :
    n.chars spelling =
      (if n.negative then ['-'] else []) ++
        (Nat.toDigits 10 n.whole ++ n.fractionTail spelling) := by
  unfold chars
  rw [List.append_assoc, List.append_assoc]
  rfl

theorem exponent?_exponentTail (spelling : Spelling) (n : Numeral) :
    exponent? (n.exponentTail spelling) = some n.exponent := by
  unfold exponentTail
  cases n.exponent with
  | none => rfl
  | some e => exact exponent?_exponentChars spelling e

theorem endsDigits_exponentTail (spelling : Spelling) (n : Numeral) :
    EndsDigits (n.exponentTail spelling) := by
  unfold exponentTail EndsDigits
  cases n.exponent with
  | none => simp
  | some e =>
    intro c hc
    cases hc
    decide

theorem endsDigits_fractionTail (spelling : Spelling) (n : Numeral) :
    EndsDigits (n.fractionTail spelling) := by
  unfold fractionTail
  by_cases hnil : n.fraction = []
  · rw [if_pos hnil]
    exact n.endsDigits_exponentTail spelling
  · rw [if_neg hnil]
    intro c hc
    cases hc
    decide

theorem fraction?_fractionTail (spelling : Spelling) (n : Numeral) :
    fraction? (n.fractionTail spelling) = some (n.fraction, n.exponentTail spelling) := by
  unfold fractionTail
  cases hfraction : n.fraction with
  | nil =>
    rw [if_pos rfl, List.nil_append]
    unfold exponentTail
    cases n.exponent <;> rfl
  | cons d ds =>
    have hspan := spanDigits_map (d :: ds) (n.endsDigits_exponentTail spelling)
    rw [if_neg (List.cons_ne_nil d ds), List.cons_append, fraction?, hspan]

/-- Reading undoes writing. -/
theorem parse?_chars (spelling : Spelling) (n : Numeral) : parse? (n.chars spelling) = some n := by
  obtain ⟨ds, hspan, hwhole⟩ := exists_span n.whole (n.endsDigits_fractionTail spelling)
  have hunsigned (negative : Bool) :
      parseUnsigned? negative (Nat.toDigits 10 n.whole ++ n.fractionTail spelling) =
        some ⟨negative, n.whole, n.fraction, n.exponent⟩ := by
    simp [parseUnsigned?, hspan, hwhole, fraction?_fractionTail, exponent?_exponentTail]
  rw [chars_eq]
  cases hnegative : n.negative with
  | true =>
    rw [if_pos rfl, List.singleton_append, parse?, hunsigned, ← hnegative]
  | false =>
    rw [if_neg Bool.false_ne_true, List.nil_append]
    have hread := hunsigned false
    obtain ⟨c, cs, hchars, hminus, -⟩ := exists_head n.whole
    rw [hchars, List.cons_append] at hread ⊢
    unfold parse?
    split
    next heq =>
      cases heq
      exact absurd rfl hminus
    next => rw [hread, ← hnegative]

/-! ## Integers -/

theorem toInt?_ofInt (i : Int) : (ofInt i).toInt? = some i := by
  unfold toInt? ofInt
  dsimp only
  have hzero : ¬(decide (i < 0) = true ∧ i.natAbs = 0) := by
    rw [decide_eq_true_eq]
    omega
  rw [if_pos ⟨rfl, rfl, hzero⟩]
  by_cases hneg : i < 0
  · rw [if_pos (decide_eq_true hneg)]
    congr 1
    omega
  · rw [if_neg (by rw [decide_eq_true_eq]; exact hneg)]
    congr 1
    omega

theorem toIndex?_ofInt {n : Nat} (h : n < indexLimit) : (ofInt n).toIndex? = some n := by
  unfold toIndex?
  rw [toInt?_ofInt]
  dsimp only
  rw [if_pos ⟨by omega, by exact_mod_cast h⟩, Int.toNat_natCast]

theorem toInt32?_ofInt (i : Int32) : (ofInt i.toInt).toInt32? = some i := by
  have hlow := i.le_toInt
  have hhigh := i.toInt_lt
  have hfits : fitsInt32 i.toInt = true := by
    unfold fitsInt32
    simp only [Bool.and_eq_true, decide_eq_true_eq]
    omega
  unfold toInt32?
  rw [toInt?_ofInt]
  dsimp only
  rw [if_pos hfits, Int32.ofInt_toInt]

end Numeral

/-! ## Whole numbers in commands -/

namespace Whole

theorem mapM_ofChar? (ds : List Digit) : (ds.map Digit.char).mapM Digit.ofChar? = some ds := by
  induction ds with
  | nil => rfl
  | cons d ds ih => simp [Digit.ofChar?_char, ih]

/-- The decimal digits of a natural number are read as the number. -/
theorem nat?_toString (n : Nat) : nat? (toString n).toList = some n := by
  obtain ⟨d, ds, hchars, hvalue, -⟩ := Numeral.exists_digits n
  have hread : ofDigits? (d.char :: ds.map Digit.char) = some n := by
    unfold ofDigits?
    rw [← List.map_cons, mapM_ofChar?]
    exact congrArg some hvalue
  rw [Nat.toString_eq_repr, Nat.toList_repr, hchars, List.map_cons]
  unfold nat?
  split
  next heq => exact absurd (List.cons.inj heq).1 d.char_ne.2.1
  next => exact hread

/-- A natural number that is typed in decimal is read. -/
theorem index?_toString {n : Nat} (h : n < indexLimit) : index? (toString n) = some n := by
  rw [index?, nat?_toString]
  simp [h]

/-- A natural number in decimal does not start with a colon. -/
theorem head?_toString (n : Nat) : (toString n).toList.head? ≠ some ':' := by
  obtain ⟨d, ds, hchars, -⟩ := Numeral.exists_digits n
  have hcolon : ∀ d : Digit, d.char ≠ ':' := by decide
  rw [Nat.toString_eq_repr, Nat.toList_repr, hchars]
  simpa using hcolon d

end Whole

end DialogueTree
