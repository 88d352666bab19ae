import DialogueTree.Proofs.Decimal.Range
import DialogueTree.Proofs.Decimal.Shortest
import Mathlib.Data.Rat.Floor

/-!
# Numbers written out

A number of single precision is shown without a power of ten: the whole part of its shortest
decimal, and the digits after a point if there are any, with no zero at their end. There is one such
text for each number, and the plain layout writes it.

Results:
* `eq_of_decimalValue`: a decimal is written out in one way only.
* `Numeral.positional_spec`: digits with a point among or after them keep their value.
* `writesOut_iff`: what the plain layout writes.
-/

namespace DialogueTree

open Float.Model

/-! ## Decimals -/

/-- The value of a whole part and of digits after a point. -/
def decimalValue (whole : ℕ) (fraction : List Digit) : ℚ :=
  whole + Numeral.ofDigits fraction / 10 ^ fraction.length

/-- A whole part, and the digits after a point if there are any. -/
def decimalChars (whole : ℕ) (fraction : List Digit) : List Char :=
  Nat.toDigits 10 whole ++ if fraction = [] then [] else '.' :: fraction.map Digit.char

namespace Numeral

theorem ofDigits_inj {ds ds' : List Digit} (hlength : ds.length = ds'.length)
    (h : ofDigits ds = ofDigits ds') : ds = ds' := by
  induction ds using List.reverseRecOn generalizing ds' with
  | nil => exact (List.length_eq_zero_iff.mp hlength.symm).symm
  | append_singleton ds d ih =>
    cases ds' using List.reverseRecOn with
    | nil => simp at hlength
    | append_singleton ds' d' =>
      rw [ofDigits_concat, ofDigits_concat] at h
      rw [ih (by simpa using hlength) (by omega), show d = d' from Fin.ext (by omega)]

end Numeral

open Numeral

variable {whole whole' : ℕ} {fraction fraction' : List Digit}

theorem floor_decimalValue (whole : ℕ) (fraction : List Digit) :
    ⌊decimalValue whole fraction⌋₊ = whole := by
  have hpos : (0 : ℚ) < 10 ^ fraction.length := by positivity
  have hlt : (ofDigits fraction : ℚ) < 10 ^ fraction.length := by
    exact_mod_cast ofDigits_lt fraction
  have hone : (ofDigits fraction : ℚ) / 10 ^ fraction.length < 1 := (div_lt_one hpos).mpr hlt
  have hzero : (0 : ℚ) ≤ ofDigits fraction / 10 ^ fraction.length := by positivity
  rw [Nat.floor_eq_iff (by unfold decimalValue; positivity)]
  unfold decimalValue
  constructor <;> linarith

/-- Digits after a point that have the same value are the same but for zeros at their end. -/
theorem eq_append_of_ofDigits_div (hlength : fraction.length ≤ fraction'.length)
    (h : (ofDigits fraction : ℚ) / 10 ^ fraction.length =
      ofDigits fraction' / 10 ^ fraction'.length) :
    fraction' = fraction ++ List.replicate (fraction'.length - fraction.length) Digit.zero := by
  refine (ofDigits_inj (by simp; omega) ?_).symm
  obtain ⟨k, hk⟩ := Nat.exists_eq_add_of_le hlength
  rw [hk, pow_add, div_eq_div_iff (by positivity) (by positivity)] at h
  have hmul : (ofDigits fraction : ℚ) * 10 ^ k = ofDigits fraction' :=
    mul_right_cancel₀ (b := 10 ^ fraction.length) (by positivity) (by linarith)
  rw [ofDigits_append, ofDigits_replicate_zero, List.length_replicate, hk, Nat.add_zero,
    Nat.add_sub_cancel_left]
  exact_mod_cast hmul

/-- A decimal is written out in one way only, if no zero stands at its end. -/
theorem eq_of_decimalValue (hend : fraction.getLast? ≠ some Digit.zero)
    (hend' : fraction'.getLast? ≠ some Digit.zero)
    (h : decimalValue whole fraction = decimalValue whole' fraction') :
    whole = whole' ∧ fraction = fraction' := by
  have hwhole : whole = whole' := by
    rw [← floor_decimalValue whole fraction, h, floor_decimalValue]
  refine ⟨hwhole, ?_⟩
  rw [hwhole, decimalValue, decimalValue, add_right_inj] at h
  -- with zeros at the end of the shorter one both have the same digits, so there are none
  have hsame {f f' : List Digit} (hlength : f.length ≤ f'.length)
      (hend : f'.getLast? ≠ some Digit.zero)
      (h : (ofDigits f : ℚ) / 10 ^ f.length = ofDigits f' / 10 ^ f'.length) : f = f' := by
    have happend := eq_append_of_ofDigits_div hlength h
    cases hk : f'.length - f.length with
    | zero => rw [happend, hk, List.replicate_zero, List.append_nil]
    | succ k =>
      rw [happend, hk, List.replicate_succ', ← List.append_assoc, List.getLast?_concat] at hend
      exact absurd rfl hend
  rcases Nat.le_total fraction.length fraction'.length with hle | hle
  · exact hsame hle hend' h
  · exact (hsame hle hend h.symm).symm

/-! ## Digits written out -/

namespace Numeral

theorem chars_of_exponent {n : Numeral} (h : n.exponent = none) (spelling : Spelling) :
    n.chars spelling = (if n.negative then ['-'] else []) ++ decimalChars n.whole n.fraction := by
  rw [chars, h, decimalChars, List.append_nil, List.append_assoc]

theorem ofScientific_plain (negative : Bool) (s : Scientific) :
    ofScientific Layout.plain negative s = positional negative false s := if_pos rfl

/-- Digits with a point among them, or before all of them and some zeros, keep their value. -/
theorem decimalValue_zeros {ds : List Digit} {k : ℕ} (h : k = 0 ∨ ds = []) (ds' : List Digit) :
    decimalValue (ofDigits ds) (List.replicate k Digit.zero ++ ds') =
      ofDigits (ds ++ ds') * 10 ^ (-(k + ds'.length : ℕ) : ℤ) := by
  have hzeros : (ofDigits ds : ℚ) * 10 ^ k = ofDigits ds := by
    rcases h with rfl | rfl
    · exact mul_one _
    · exact zero_mul _
  rw [decimalValue, ofDigits_append, ofDigits_append, ofDigits_replicate_zero, Nat.zero_mul,
    Nat.zero_add, List.length_append, List.length_replicate, zpow_neg, zpow_natCast,
    ← div_eq_mul_inv]
  push_cast
  rw [add_div, pow_add, mul_div_mul_right _ _ (by positivity), ← hzeros,
    mul_div_cancel_right₀ _ (by positivity), hzeros]

/-- Digits with a point among or after them keep their value. -/
theorem positional_spec {s : Scientific} {front : List Digit} {last : Digit}
    (hdigits : s.digits = front ++ [last]) (hlast : last ≠ Digit.zero) (negative : Bool) :
    decimalValue (positional negative false s).whole (positional negative false s).fraction =
        ofDigits s.digits * 10 ^ s.lastPlace ∧
      (positional negative false s).fraction.getLast? ≠ some Digit.zero := by
  have hlength : s.digits.length = front.length + 1 := by rw [hdigits]; simp
  have hplace : s.lastPlace = s.exponent + 1 - s.digits.length := rfl
  unfold positional
  dsimp only
  rw [if_neg (by simp)]
  generalize hwhole : (s.exponent + 1).toNat = w
  rcases Nat.lt_or_ge w s.digits.length with hlt | hge
  · -- the last digit stands after the point
    have hend : (List.replicate (-(s.exponent + 1)).toNat Digit.zero ++
        s.digits.drop w).getLast? = some last := by
      rw [List.getLast?_append, List.getLast?_drop, if_neg (by omega), hdigits,
        List.getLast?_concat, Option.some_or]
    rw [hend]
    refine ⟨?_, fun h => hlast (Option.some.inj h)⟩
    generalize hk : (-(s.exponent + 1)).toNat = k
    have hfront : k = 0 ∨ s.digits.take w = [] := by
      rcases Nat.eq_zero_or_pos k with hzero | hpos
      · exact .inl hzero
      · exact .inr (by rw [show w = 0 by omega, List.take_zero])
    rw [show w - s.digits.length = 0 by omega, List.replicate_zero, List.append_nil,
      decimalValue_zeros hfront, List.take_append_drop, List.length_drop,
      show s.lastPlace = -((k + (s.digits.length - w) : ℕ) : ℤ) by omega]
  · -- all digits stand before the point
    rw [List.take_of_length_le hge, List.drop_eq_nil_of_le hge, List.append_nil,
      show (-(s.exponent + 1)).toNat = 0 by omega, List.replicate_zero]
    refine ⟨?_, by simp⟩
    rw [decimalValue, ofDigits_append, ofDigits_replicate_zero, List.length_replicate,
      show s.lastPlace = (w - s.digits.length : ℕ) by omega, zpow_natCast]
    simp [ofDigits]

end Numeral

/-! ## Numbers of single precision -/

/-- The sign of a number as it is written. -/
def signChars : UnpackedFloat.Sign → List Char
  | .positive => []
  | .negative => ['-']

/-- Whether some characters write a number of single precision out: what is not finite by its name,
and anything else as the shortest decimal that rounds to it. -/
inductive WritesOut (x : Float32) : List Char → Prop
  | notANumber (h : x.toModel.unpack = .notANumber) : WritesOut x ['N', 'a', 'N']
  | infinite {sign : UnpackedFloat.Sign} (h : x.toModel.unpack = .infinity sign) :
      WritesOut x (signChars sign ++ ['i', 'n', 'f'])
  | zero {sign : UnpackedFloat.Sign} (h : x.toModel.unpack = .zero sign) :
      WritesOut x (signChars sign ++ ['0'])
  | finite {sign : UnpackedFloat.Sign} {m c : ℕ} {e p : ℤ} {hm : 0 < m} {whole : ℕ}
      {fraction : List Digit} (h : x.toModel.unpack = .finite sign m e hm)
      (hshortest : IsShortest .up m e c p) (hvalue : decimalValue whole fraction = c * 10 ^ p)
      (hend : fraction.getLast? ≠ some Digit.zero) :
      WritesOut x (signChars sign ++ decimalChars whole fraction)

variable {x : Float32} {cs cs' : List Char}

theorem WritesOut.unique (h : WritesOut x cs) (h' : WritesOut x cs') : cs = cs' := by
  cases h with
  | notANumber hx =>
    cases h' with
    | notANumber => rfl
    | infinite hx' | zero hx' | finite hx' => cases hx.symm.trans hx'
  | infinite hx =>
    cases h' with
    | infinite hx' =>
      cases hx.symm.trans hx'
      rfl
    | notANumber hx' | zero hx' | finite hx' => cases hx.symm.trans hx'
  | zero hx =>
    cases h' with
    | zero hx' =>
      cases hx.symm.trans hx'
      rfl
    | notANumber hx' | infinite hx' | finite hx' => cases hx.symm.trans hx'
  | finite hx hshortest hvalue hend =>
    cases h' with
    | finite hx' hshortest' hvalue' hend' =>
      cases hx.symm.trans hx'
      obtain ⟨rfl, rfl⟩ := eq_of_decimalValue hend hend'
        (hvalue.trans ((hshortest.unique hshortest').trans hvalue'.symm))
      rfl
    | notANumber hx' | infinite hx' | zero hx' => cases hx.symm.trans hx'

/-- A number that is infinite is below zero if its sign says so. -/
theorem lt_zero_of_infinity {sign : UnpackedFloat.Sign} (h : x.toModel.unpack = .infinity sign) :
    x < 0 ↔ sign = .negative := by
  have hzero : (0 : Float32).toModel.unpack = .zero .positive := rfl
  have hlt : x < 0 ↔ x.toModel.unpack.lt (0 : Float32).toModel.unpack = true := decide_eq_true_iff
  rw [hlt, h, hzero]
  cases sign
  · exact ⟨fun _ => rfl, fun _ => rfl⟩
  · exact ⟨fun h => (Bool.false_ne_true h).elim, fun h => by cases h⟩

/-- Whether a sign is written. -/
def isNegative : UnpackedFloat.Sign → Bool
  | .positive => false
  | .negative => true

theorem ofFloat32?_of_zero {sign : UnpackedFloat.Sign} (h : x.toModel.unpack = .zero sign)
    (l : Layout) : ofFloat32? l x = some (ofScientific l (isNegative sign) ⟨[Digit.zero], 0⟩) := by
  rw [ofFloat32?, h]
  cases sign <;> rfl

theorem ofFloat32?_of_finite {sign : UnpackedFloat.Sign} {m : ℕ} {e : ℤ} {hm : 0 < m}
    (h : x.toModel.unpack = .finite sign m e hm) (l : Layout) :
    ofFloat32? l x = some (ofScientific l (isNegative sign) (.shortest l.tie m e)) := by
  rw [ofFloat32?, h]
  cases sign <;> rfl

/-- What is finite is written as its sign and its digits with a point among or after them. -/
theorem text_of_scientific {sign : UnpackedFloat.Sign} {s : Scientific}
    (h : ofFloat32? Layout.plain x = some (ofScientific Layout.plain (isNegative sign) s)) :
    (Layout.plain.text x).toList = signChars sign ++
      decimalChars (positional false false s).whole (positional false false s).fraction := by
  rw [ofScientific_plain] at h
  rw [Layout.text, h]
  dsimp only
  rw [String.toList_ofList, chars_of_exponent rfl]
  cases sign <;> rfl

/-- What is not finite is written as its name. -/
theorem text_of_none (h : ofFloat32? Layout.plain x = none) :
    Layout.plain.text x = if x.isNaN then "NaN" else if x < 0 then "-inf" else "inf" := by
  rw [Layout.text, h]

/-- The plain layout writes a number out. -/
theorem writesOut_text (x : Float32) : WritesOut x (Layout.plain.text x).toList := by
  have hnan : x.isNaN = x.toModel.unpack.isNaN := rfl
  cases hx : x.toModel.unpack with
  | notANumber =>
    rw [text_of_none (by rw [ofFloat32?, hx]), if_pos (by rw [hnan, hx]; rfl)]
    exact .notANumber hx
  | infinity sign =>
    have htext : (Layout.plain.text x).toList = signChars sign ++ ['i', 'n', 'f'] := by
      rw [text_of_none (by rw [ofFloat32?, hx]),
        if_neg (by rw [hnan, hx]; exact Bool.false_ne_true)]
      cases sign with
      | negative =>
        rw [if_pos ((lt_zero_of_infinity hx).mpr rfl)]
        rfl
      | positive =>
        rw [if_neg fun hlt => by cases (lt_zero_of_infinity hx).mp hlt]
        rfl
    rw [htext]
    exact .infinite hx
  | zero sign =>
    rw [text_of_scientific (ofFloat32?_of_zero hx Layout.plain)]
    exact .zero hx
  | finite sign m e hm =>
    obtain ⟨⟨front, last, hdigits, hlast⟩, hshortest⟩ :=
      Scientific.shortest_spec .up hm (bounds_of_unpack hx).1 e
    obtain ⟨hvalue, hend⟩ := positional_spec hdigits hlast false
    rw [text_of_scientific (ofFloat32?_of_finite hx Layout.plain)]
    exact .finite hx hshortest hvalue hend

/-- There is one text that writes a number out, the one of the plain layout. -/
theorem writesOut_iff : WritesOut x cs ↔ (Layout.plain.text x).toList = cs := by
  constructor
  · exact fun h => (writesOut_text x).unique h
  · rintro rfl
    exact writesOut_text x

end DialogueTree
