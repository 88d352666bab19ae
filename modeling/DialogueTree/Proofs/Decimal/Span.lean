import DialogueTree.Decimal.Shortest
import DialogueTree.Proofs.Decimal.Numeral
import Mathlib.Algebra.Order.Field.Power
import Mathlib.Data.Rat.Defs
import Mathlib.Data.Nat.Digits.Defs
import Mathlib.Tactic.Linarith
import Mathlib.Tactic.Positivity
import Mathlib.Tactic.FieldSimp
import Mathlib.Tactic.Push

/-!
# Spans of decimals

The search for the shortest digits of a number works on naturals: a number and the ends of its span
have one denominator, and on the grid of a power of ten only the two neighbours of the number are
looked at. Told in fractions, a span holds what is rounded to the number, and a grid has a hit if
and only if one of the neighbours is one.

Results:
* `Span.holds_iff`: the test on naturals as one on fractions.
* `Span.isHit_of_pick`, `Span.not_contains_of_pick`: the nearest hit on a grid, or that it has none.
* `Span.leading_spec`: the power of ten of the first digit.
* `Span.contains_ofBinary`: the span of a number of single precision.
-/

namespace DialogueTree

/-- The distance from `m · 2 ^ e` to the middle between it and the number below it. Below the
smallest digits of single precision, numbers are twice as dense. -/
def halfBelow (m : ℕ) (e : ℤ) : ℚ := if m = 2 ^ 23 ∧ -149 < e then 2 ^ e / 4 else 2 ^ e / 2

/-- Whether a fraction is rounded to `m · 2 ^ e` in single precision: it is nearer to it than to the
next numbers on both sides, or halfway to one of them and `m` is even. -/
def RoundsTo (m : ℕ) (e : ℤ) (q : ℚ) : Prop :=
  if Even m then m * 2 ^ e - halfBelow m e ≤ q ∧ q ≤ m * 2 ^ e + 2 ^ e / 2
  else m * 2 ^ e - halfBelow m e < q ∧ q < m * 2 ^ e + 2 ^ e / 2

namespace Span

variable {s : Span} {tie : Tie} {place : ℤ} {n : ℕ} {q r x : ℚ}

/-- The number that a span is about. -/
def value (s : Span) : ℚ := s.mid / s.den

/-- Whether a fraction lies in a span. -/
def Contains (s : Span) (q : ℚ) : Prop :=
  if s.closed then s.low / s.den ≤ q ∧ q ≤ s.high / s.den
  else s.low / s.den < q ∧ q < s.high / s.den

/-- Whether the ends of a span are apart from the number, on both sides. -/
structure IsProper (s : Span) : Prop where
  den_pos : 0 < s.den
  low_lt : s.low < s.mid
  lt_high : s.mid < s.high

theorem IsProper.contains_value (h : s.IsProper) : s.Contains s.value := by
  have hden : (0 : ℚ) < s.den := by exact_mod_cast h.den_pos
  have hlow : (s.low : ℚ) / s.den < s.value :=
    div_lt_div_of_pos_right (by exact_mod_cast h.low_lt) hden
  have hhigh : s.value < (s.high : ℚ) / s.den :=
    div_lt_div_of_pos_right (by exact_mod_cast h.lt_high) hden
  unfold Contains
  split
  · exact ⟨hlow.le, hhigh.le⟩
  · exact ⟨hlow, hhigh⟩

/-- What lies between two fractions of a span lies in it. -/
theorem Contains.between (hq : s.Contains q) (hr : s.Contains r) (hqx : q ≤ x) (hxr : x ≤ r) :
    s.Contains x := by
  unfold Contains at *
  split at hq
  next hclosed =>
    rw [if_pos hclosed] at hr ⊢
    exact ⟨hq.1.trans hqx, hxr.trans hr.2⟩
  next hclosed =>
    rw [if_neg hclosed] at hr ⊢
    exact ⟨hq.1.trans_le hqx, hxr.trans_lt hr.2⟩

/-! ## One grid -/

/-- A power of ten as a fraction of two natural ones. -/
theorem ten_pow_toNat (place : ℤ) :
    (10 : ℚ) ^ place.toNat = 10 ^ place * 10 ^ (-place).toNat := by
  rw [← zpow_natCast, ← zpow_natCast, ← zpow_add₀ (by norm_num)]
  congr 1
  omega

/-- A multiple of a power of ten, brought to the same denominator as the span. -/
theorem natCast_grid (s : Span) (n : ℕ) (place : ℤ) :
    ((n * (s.den * 10 ^ place.toNat) : ℕ) : ℚ) =
      n * 10 ^ place * (s.den * 10 ^ (-place).toNat) := by
  push_cast
  rw [ten_pow_toNat]
  ring

theorem scale_pos (hden : 0 < s.den) (place : ℤ) : (0 : ℚ) < s.den * 10 ^ (-place).toNat := by
  have hden' : (0 : ℚ) < s.den := by exact_mod_cast hden
  positivity

/-- The test on naturals as one on fractions. -/
theorem holds_iff (hden : 0 < s.den) (n : ℕ) (place : ℤ) :
    s.holds (n * (s.den * 10 ^ place.toNat)) (10 ^ (-place).toNat) = true ↔
      s.Contains (n * 10 ^ place) := by
  have hne : (s.den : ℚ) ≠ 0 := by exact_mod_cast hden.ne'
  have hscale := scale_pos hden place
  have hend (a : ℕ) : ((a * 10 ^ (-place).toNat : ℕ) : ℚ) =
      a / s.den * (s.den * 10 ^ (-place).toNat) := by
    push_cast
    field_simp
  have hgrid := natCast_grid s n place
  have hle (a : ℕ) : a * 10 ^ (-place).toNat ≤ n * (s.den * 10 ^ place.toNat) ↔
      (a : ℚ) / s.den ≤ n * 10 ^ place := by
    rw [← Nat.cast_le (α := ℚ), hend, hgrid, mul_le_mul_iff_of_pos_right hscale]
  have hge (a : ℕ) : n * (s.den * 10 ^ place.toNat) ≤ a * 10 ^ (-place).toNat ↔
      (n : ℚ) * 10 ^ place ≤ a / s.den := by
    rw [← Nat.cast_le (α := ℚ), hend, hgrid, mul_le_mul_iff_of_pos_right hscale]
  unfold holds Contains
  by_cases hclosed : s.closed
  · rw [if_pos hclosed, if_pos hclosed, Bool.and_eq_true, decide_eq_true_iff, decide_eq_true_iff,
      hle, hge]
  · rw [if_neg hclosed, if_neg hclosed, Bool.and_eq_true, decide_eq_true_iff, decide_eq_true_iff,
      ← not_le, ← not_le, hle, hge, not_le, not_le]

/-- The number of multiples of a power of ten up to the number of a span. -/
def multiples (s : Span) (place : ℤ) : ℕ :=
  s.mid * 10 ^ (-place).toNat / (s.den * 10 ^ place.toNat)

/-- The number of a span, brought to the same denominator. -/
theorem natCast_mid (hden : 0 < s.den) (place : ℤ) : ((s.mid * 10 ^ (-place).toNat : ℕ) : ℚ) =
    s.value * (s.den * 10 ^ (-place).toNat) := by
  have hne : (s.den : ℚ) ≠ 0 := by exact_mod_cast hden.ne'
  unfold value
  push_cast
  field_simp

theorem multiples_le (hden : 0 < s.den) (place : ℤ) :
    s.multiples place * 10 ^ place ≤ s.value := by
  have hle : s.multiples place * (s.den * 10 ^ place.toNat) ≤ s.mid * 10 ^ (-place).toNat :=
    Nat.div_mul_le_self _ _
  rw [← Nat.cast_le (α := ℚ), natCast_grid, natCast_mid hden] at hle
  exact le_of_mul_le_mul_right hle (scale_pos hden place)

theorem lt_multiples (hden : 0 < s.den) (place : ℤ) :
    s.value < (s.multiples place + 1 : ℕ) * 10 ^ place := by
  have hpos : 0 < s.den * 10 ^ place.toNat := Nat.mul_pos hden (Nat.pow_pos (by omega))
  have hlt :
      s.mid * 10 ^ (-place).toNat < (s.multiples place + 1) * (s.den * 10 ^ place.toNat) := by
    rw [Nat.mul_comm (s.multiples place + 1)]
    exact Nat.lt_mul_div_succ _ hpos
  rw [← Nat.cast_lt (α := ℚ), natCast_grid, natCast_mid hden] at hlt
  exact lt_of_mul_lt_mul_right hlt (scale_pos hden place).le

/-- Which of two neighbours is nearer, told by naturals. -/
theorem compare_multiples (hden : 0 < s.den) (place : ℤ) :
    let c := s.multiples place
    let g := s.den * 10 ^ place.toNat
    let rest := 2 * (s.mid * 10 ^ (-place).toNat - c * g)
    (rest < g ↔ s.value - c * 10 ^ place < (c + 1 : ℕ) * 10 ^ place - s.value) ∧
      (g < rest ↔ (c + 1 : ℕ) * 10 ^ place - s.value < s.value - c * 10 ^ place) := by
  intro c g rest
  have hle : c * g ≤ s.mid * 10 ^ (-place).toNat := Nat.div_mul_le_self _ _
  have hrest : (rest : ℚ) = 2 * (s.value - c * 10 ^ place) * (s.den * 10 ^ (-place).toNat) := by
    rw [Nat.cast_mul, Nat.cast_sub hle, natCast_grid, natCast_mid hden]
    push_cast
    ring
  have hg : (g : ℚ) = 10 ^ place * (s.den * 10 ^ (-place).toNat) := by
    have hone := natCast_grid s 1 place
    rwa [Nat.one_mul, Nat.cast_one, one_mul] at hone
  have hscale := scale_pos hden place
  constructor
  · rw [← Nat.cast_lt (α := ℚ), hrest, hg, mul_lt_mul_iff_of_pos_right hscale]
    push_cast
    constructor <;> intro h <;> linarith
  · rw [← Nat.cast_lt (α := ℚ), hrest, hg, mul_lt_mul_iff_of_pos_right hscale]
    push_cast
    constructor <;> intro h <;> linarith

/-- A multiple in a span has a neighbour of the number between them, or is one. -/
theorem contains_neighbour (h : s.IsProper) {j : ℕ} (hj : s.Contains (j * 10 ^ place)) :
    (j ≤ s.multiples place ∧ s.Contains (s.multiples place * 10 ^ place)) ∨
      (s.multiples place + 1 ≤ j ∧ s.Contains ((s.multiples place + 1 : ℕ) * 10 ^ place)) := by
  have hten : (0 : ℚ) < 10 ^ place := zpow_pos (by norm_num) place
  rcases Nat.lt_or_ge (s.multiples place) j with hlt | hle
  · refine .inr ⟨hlt, h.contains_value.between hj (lt_multiples h.den_pos place).le ?_⟩
    exact mul_le_mul_of_nonneg_right (by exact_mod_cast hlt) hten.le
  · refine .inl ⟨hle, hj.between h.contains_value ?_ (multiples_le h.den_pos place)⟩
    exact mul_le_mul_of_nonneg_right (by exact_mod_cast hle) hten.le

/-- A multiple up to the number is as far from it as the nearest one there, or farther. -/
theorem abs_sub_le_of_le {j : ℕ} (hj : j ≤ s.multiples place) :
    s.value - s.multiples place * 10 ^ place ≤ |j * 10 ^ place - s.value| := by
  have hten : (0 : ℚ) < 10 ^ place := zpow_pos (by norm_num) place
  have hle : (j : ℚ) * 10 ^ place ≤ s.multiples place * 10 ^ place :=
    mul_le_mul_of_nonneg_right (by exact_mod_cast hj) hten.le
  rw [abs_sub_comm]
  exact (sub_le_sub_left hle _).trans (le_abs_self _)

/-- A multiple beyond the number is as far from it as the nearest one there, or farther. -/
theorem abs_sub_le_of_lt {j : ℕ} (hj : s.multiples place + 1 ≤ j) :
    (s.multiples place + 1 : ℕ) * 10 ^ place - s.value ≤ |j * 10 ^ place - s.value| := by
  have hten : (0 : ℚ) < 10 ^ place := zpow_pos (by norm_num) place
  have hle : ((s.multiples place + 1 : ℕ) : ℚ) * 10 ^ place ≤ j * 10 ^ place :=
    mul_le_mul_of_nonneg_right (by exact_mod_cast hj) hten.le
  exact (sub_le_sub_right hle _).trans (le_abs_self _)

/-- The hit on one grid. -/
structure IsHit (s : Span) (place : ℤ) (n : ℕ) : Prop where
  contains : s.Contains (n * 10 ^ place)
  nearest (j : ℕ) (h : s.Contains (j * 10 ^ place)) :
    |n * 10 ^ place - s.value| ≤ |j * 10 ^ place - s.value|

/-- The neighbour below the number, if it is a hit and the one above is none, or farther. -/
theorem isHit_below (h : s.IsProper) (hc : s.Contains (s.multiples place * 10 ^ place))
    (hnext : s.Contains ((s.multiples place + 1 : ℕ) * 10 ^ place) →
      s.value - s.multiples place * 10 ^ place ≤
        (s.multiples place + 1 : ℕ) * 10 ^ place - s.value) :
    s.IsHit place (s.multiples place) := by
  refine ⟨hc, fun j hj => ?_⟩
  rw [abs_sub_comm, abs_of_nonneg (sub_nonneg.mpr (multiples_le h.den_pos place))]
  rcases contains_neighbour h hj with ⟨hle, -⟩ | ⟨hlt, hnext'⟩
  · exact abs_sub_le_of_le hle
  · exact (hnext hnext').trans (abs_sub_le_of_lt hlt)

/-- The neighbour above the number, if it is a hit and the one below is none, or farther. -/
theorem isHit_above (h : s.IsProper) (hc : s.Contains ((s.multiples place + 1 : ℕ) * 10 ^ place))
    (hprevious : s.Contains (s.multiples place * 10 ^ place) →
      (s.multiples place + 1 : ℕ) * 10 ^ place - s.value ≤
        s.value - s.multiples place * 10 ^ place) : s.IsHit place (s.multiples place + 1) := by
  refine ⟨hc, fun j hj => ?_⟩
  rw [abs_of_nonneg (sub_nonneg.mpr (lt_multiples h.den_pos place).le)]
  rcases contains_neighbour h hj with ⟨hle, hprevious'⟩ | ⟨hlt, -⟩
  · exact (hprevious hprevious').trans (abs_sub_le_of_le hle)
  · exact abs_sub_le_of_lt hlt

theorem pick_eq (s : Span) (tie : Tie) (place : ℤ) :
    let c := s.multiples place
    let g := s.den * 10 ^ place.toNat
    let k := 10 ^ (-place).toNat
    s.pick tie place = match s.holds (c * g) k, s.holds ((c + 1) * g) k with
      | true, true =>
        match compare (2 * (s.mid * k - c * g)) g with
        | .lt => some c
        | .gt => some (c + 1)
        | .eq => some (if tie = .toEven ∧ c % 2 = 0 then c else c + 1)
      | true, false => some c
      | false, true => some (c + 1)
      | false, false => none := rfl

/-- Only the two neighbours are picked. -/
theorem pick_cases (h : s.pick tie place = some n) :
    n = s.multiples place ∨ n = s.multiples place + 1 := by
  rw [pick_eq] at h
  split at h
  · split at h
    · exact .inl (Option.some.inj h).symm
    · exact .inr (Option.some.inj h).symm
    · rw [← Option.some.inj h]
      split
      · exact .inl rfl
      · exact .inr rfl
  · exact .inl (Option.some.inj h).symm
  · exact .inr (Option.some.inj h).symm
  · cases h

/-- What is picked is a hit. -/
theorem isHit_of_pick (h : s.IsProper) (hpick : s.pick tie place = some n) : s.IsHit place n := by
  have hbelow := holds_iff h.den_pos (s.multiples place) place
  have habove := holds_iff h.den_pos (s.multiples place + 1) place
  obtain ⟨hlt, hgt⟩ := compare_multiples h.den_pos place
  rw [pick_eq] at hpick
  split at hpick
  next hc hc' =>
    replace hc := hbelow.mp hc
    replace hc' := habove.mp hc'
    split at hpick
    next hcompare =>
      cases hpick
      exact isHit_below h hc fun _ => (hlt.mp (Nat.compare_eq_lt.mp hcompare)).le
    next hcompare =>
      cases hpick
      exact isHit_above h hc' fun _ => (hgt.mp (Nat.compare_eq_gt.mp hcompare)).le
    next hcompare =>
      have heq := Nat.compare_eq_eq.mp hcompare
      cases hpick
      split
      · exact isHit_below h hc fun _ => not_lt.mp fun hlt' => (hgt.mpr hlt').ne' heq
      · exact isHit_above h hc' fun _ => not_lt.mp fun hlt' => (hlt.mpr hlt').ne heq
  next hc hc' =>
    cases hpick
    refine isHit_below h (hbelow.mp hc) fun hnext => ?_
    rw [habove.mpr hnext] at hc'
    cases hc'
  next hc hc' =>
    cases hpick
    refine isHit_above h (habove.mp hc') fun hprevious => ?_
    rw [hbelow.mpr hprevious] at hc
    cases hc
  · cases hpick

/-- Where ties go up, the neighbour below is picked beside a hit only if it is nearer. -/
theorem lt_of_pick_below (hden : 0 < s.den) (hpick : s.pick .up place = some (s.multiples place))
    (hnext : s.Contains ((s.multiples place + 1 : ℕ) * 10 ^ place)) :
    s.value - s.multiples place * 10 ^ place <
      (s.multiples place + 1 : ℕ) * 10 ^ place - s.value := by
  have hholds := (holds_iff hden (s.multiples place + 1) place).mpr hnext
  obtain ⟨hcloser, -⟩ := compare_multiples hden place
  have hne : s.multiples place + 1 ≠ s.multiples place := Nat.succ_ne_self _
  rw [pick_eq] at hpick
  rw [hholds] at hpick
  split at hpick
  next =>
    split at hpick
    next hcompare => exact hcloser.mp (Nat.compare_eq_lt.mp hcompare)
    next => exact absurd (Option.some.inj hpick) hne
    next =>
      rw [if_neg (by simp)] at hpick
      exact absurd (Option.some.inj hpick) hne
  next hfalse => cases hfalse
  next => exact absurd (Option.some.inj hpick) hne
  next => cases hpick

/-- Where ties go up, no multiple beyond the hit is as near. -/
theorem le_of_pick_up (h : s.IsProper) (hpick : s.pick .up place = some n) {j : ℕ}
    (hj : s.Contains (j * 10 ^ place))
    (hnear : |j * 10 ^ place - s.value| ≤ |n * 10 ^ place - s.value|) : j ≤ n := by
  by_contra! hlt
  have hbelow := multiples_le h.den_pos place
  have habove := lt_multiples h.den_pos place
  rcases pick_cases hpick with rfl | rfl
  · -- the hit is the neighbour below, so that the one above must be farther
    rcases contains_neighbour h hj with ⟨hle, -⟩ | ⟨-, hnext⟩
    · omega
    have hcloser := lt_of_pick_below h.den_pos hpick hnext
    have hfar :
        (s.multiples place + 1 : ℕ) * 10 ^ place - s.value ≤ |j * 10 ^ place - s.value| :=
      abs_sub_le_of_lt hlt
    rw [abs_sub_comm (s.multiples place * 10 ^ place : ℚ),
      abs_of_nonneg (sub_nonneg.mpr hbelow)] at hnear
    linarith
  · have hten : (0 : ℚ) < 10 ^ place := zpow_pos (by norm_num) place
    have hbeyond : ((s.multiples place + 1 : ℕ) : ℚ) * 10 ^ place < j * 10 ^ place :=
      mul_lt_mul_of_pos_right (by exact_mod_cast hlt) hten
    rw [abs_of_nonneg (sub_nonneg.mpr habove.le),
      abs_of_nonneg (sub_nonneg.mpr (habove.trans hbeyond).le)] at hnear
    linarith

/-- Where nothing is picked, the grid has no hit. -/
theorem not_contains_of_pick (h : s.IsProper) (hpick : s.pick tie place = none) (j : ℕ) :
    ¬s.Contains (j * 10 ^ place) := by
  intro hj
  have hbelow := holds_iff h.den_pos (s.multiples place) place
  have habove := holds_iff h.den_pos (s.multiples place + 1) place
  rw [pick_eq] at hpick
  split at hpick
  · split at hpick <;> cases hpick
  · cases hpick
  · cases hpick
  next hc hc' =>
    rcases contains_neighbour h hj with ⟨-, hhit⟩ | ⟨-, hhit⟩
    · rw [hbelow.mpr hhit] at hc
      cases hc
    · rw [habove.mpr hhit] at hc'
      cases hc'

/-! ## The first digit -/

theorem pow_length_le {n : ℕ} (h : 0 < n) : 10 ^ ((Nat.toDigits 10 n).length - 1) ≤ n := by
  by_cases hone : (Nat.toDigits 10 n).length - 1 = 0
  · rw [hone]
    exact h
  · by_contra hlt
    have hle := (Nat.length_toDigits_le_iff (by omega) (Nat.pos_of_ne_zero hone)).mpr
      (Nat.lt_of_not_le hlt)
    omega

theorem lt_pow_length (n : ℕ) : n < 10 ^ (Nat.toDigits 10 n).length :=
  (Nat.length_toDigits_le_iff (by omega) Nat.length_toDigits_pos).mp (Nat.le_refl _)

/-- A number by the digits of its parts. -/
theorem value_bounds (hden : 0 < s.den) (hmid : 0 < s.mid) {a b : ℕ}
    (ha : (Nat.toDigits 10 s.mid).length = a) (hb : (Nat.toDigits 10 s.den).length = b) :
    (10 : ℚ) ^ ((a : ℤ) - b - 1) ≤ s.value ∧ s.value < 10 ^ ((a : ℤ) - b + 1) := by
  have hden' : (0 : ℚ) < s.den := by exact_mod_cast hden
  have hdenlow := pow_length_le hden
  have hdenhigh := lt_pow_length s.den
  have hmidlow := pow_length_le hmid
  have hmidhigh := lt_pow_length s.mid
  have hapos : 0 < (Nat.toDigits 10 s.mid).length := Nat.length_toDigits_pos
  have hbpos : 0 < (Nat.toDigits 10 s.den).length := Nat.length_toDigits_pos
  rw [ha] at hmidlow hmidhigh hapos
  rw [hb] at hdenlow hdenhigh hbpos
  have hten (x y : ℤ) : (10 : ℚ) ^ (x + y) = 10 ^ x * 10 ^ y := zpow_add₀ (by norm_num) x y
  constructor
  · have hle : (10 : ℚ) ^ ((a : ℤ) - b - 1) * 10 ^ (b : ℤ) ≤ s.mid := by
      rw [← hten, show (a : ℤ) - b - 1 + b = (a - 1 : ℕ) by omega, zpow_natCast]
      exact_mod_cast hmidlow
    have hlt : (s.den : ℚ) ≤ 10 ^ (b : ℤ) := by
      rw [zpow_natCast]
      exact_mod_cast hdenhigh.le
    rw [value, le_div_iff₀ hden']
    exact (mul_le_mul_of_nonneg_left hlt (zpow_nonneg (by norm_num) _)).trans hle
  · have hlt : (s.mid : ℚ) < 10 ^ ((a : ℤ) - b + 1) * 10 ^ ((b : ℤ) - 1) := by
      rw [← hten, show (a : ℤ) - b + 1 + (b - 1) = (a : ℕ) by omega, zpow_natCast]
      exact_mod_cast hmidhigh
    have hle : (10 : ℚ) ^ ((b : ℤ) - 1) ≤ s.den := by
      rw [show (b : ℤ) - 1 = (b - 1 : ℕ) by omega, zpow_natCast]
      exact_mod_cast hdenlow
    rw [value, div_lt_iff₀ hden']
    exact hlt.trans_le (mul_le_mul_of_nonneg_left hle (zpow_nonneg (by norm_num) _))

/-- Whether a number reaches a power of ten, told by naturals. -/
theorem pow_le_value_iff (hden : 0 < s.den) (place : ℤ) :
    s.den * Nat.pow 10 place.toNat ≤ s.mid * Nat.pow 10 (-place).toNat ↔
      (10 : ℚ) ^ place ≤ s.value := by
  have hone := natCast_grid s 1 place
  rw [Nat.one_mul, Nat.cast_one, one_mul] at hone
  change s.den * 10 ^ place.toNat ≤ s.mid * 10 ^ (-place).toNat ↔ _
  rw [← Nat.cast_le (α := ℚ), hone, natCast_mid hden,
    mul_le_mul_iff_of_pos_right (scale_pos hden place)]

/-- The power of ten of the first digit of a number. -/
theorem leading_spec (hden : 0 < s.den) (hmid : 0 < s.mid) :
    (10 : ℚ) ^ s.leading ≤ s.value ∧ s.value < 10 ^ (s.leading + 1) := by
  obtain ⟨hlow, hhigh⟩ := value_bounds hden hmid rfl rfl
  unfold leading
  dsimp only
  split
  next hle => exact ⟨(pow_le_value_iff hden _).mp hle, hhigh⟩
  next hlt =>
    rw [pow_le_value_iff hden, not_le] at hlt
    exact ⟨hlow, by rwa [sub_add_cancel]⟩

/-! ## Binary numbers -/

section Binary

variable {m : ℕ} {e : ℤ}

/-- The units in which the span of a binary number is given. -/
theorem natCast_unit (e : ℤ) (a : ℕ) :
    ((a * Nat.pow 2 (e - 2).toNat : ℕ) : ℚ) / (Nat.pow 2 (2 - e).toNat : ℕ) = a * (2 ^ e / 4) := by
  have hpow : (2 : ℚ) ^ (e - 2).toNat = 2 ^ e / 4 * 2 ^ (2 - e).toNat := by
    rw [← zpow_natCast, ← zpow_natCast, show (4 : ℚ) = 2 ^ (2 : ℤ) by norm_num,
      ← zpow_sub₀ (by norm_num), ← zpow_add₀ (by norm_num)]
    congr 1
    omega
  have hpos : (0 : ℚ) < 2 ^ (2 - e).toNat := by positivity
  change ((a * 2 ^ (e - 2).toNat : ℕ) : ℚ) / (2 ^ (2 - e).toNat : ℕ) = _
  push_cast
  rw [div_eq_iff hpos.ne', hpow, mul_assoc]

theorem value_ofBinary (m : ℕ) (e : ℤ) : (ofBinary m e).value = m * 2 ^ e := by
  have hunit := natCast_unit e (4 * m)
  unfold value ofBinary
  dsimp only
  rw [hunit]
  push_cast
  ring

theorem isProper_ofBinary (hm : 0 < m) (e : ℤ) : (ofBinary m e).IsProper := by
  have hscale : 0 < Nat.pow 2 (e - 2).toNat := Nat.pow_pos (by omega)
  refine ⟨Nat.pow_pos (by omega), ?_, ?_⟩
  · unfold ofBinary
    dsimp only
    refine Nat.mul_lt_mul_of_pos_right ?_ hscale
    split <;> omega
  · unfold ofBinary
    dsimp only
    exact Nat.mul_lt_mul_of_pos_right (by omega) hscale

/-- The span of a binary number holds the fractions that are rounded to it. -/
theorem contains_ofBinary (hm : 0 < m) : (ofBinary m e).Contains q ↔ RoundsTo m e q := by
  have hlow : ((ofBinary m e).low : ℚ) / (ofBinary m e).den = m * 2 ^ e - halfBelow m e := by
    unfold ofBinary halfBelow
    dsimp only
    rw [natCast_unit]
    split
    next hlast =>
      rw [if_pos (show m = 2 ^ 23 ∧ -149 < e from hlast), Nat.cast_sub (by omega)]
      push_cast
      ring
    next hlast =>
      rw [if_neg (show ¬(m = 2 ^ 23 ∧ -149 < e) from hlast), Nat.cast_sub (by omega)]
      push_cast
      ring
  have hhigh : ((ofBinary m e).high : ℚ) / (ofBinary m e).den = m * 2 ^ e + 2 ^ e / 2 := by
    unfold ofBinary
    dsimp only
    rw [natCast_unit]
    push_cast
    ring
  have hclosed : (ofBinary m e).closed = true ↔ Even m := by
    unfold ofBinary
    rw [Nat.even_iff]
    exact beq_iff_eq
  unfold Contains RoundsTo
  rw [hlow, hhigh]
  by_cases heven : Even m
  · rw [if_pos heven, if_pos (hclosed.mpr heven)]
  · rw [if_neg heven, if_neg (mt hclosed.mp heven)]

end Binary

end Span

end DialogueTree
