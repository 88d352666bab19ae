import DialogueTree.Proofs.Decimal.Numeral
import DialogueTree.Proofs.Decimal.Span
import Mathlib.Data.List.DropRight

/-!
# The shortest digits

The search for digits tries one power of ten after another. What it finds is told here without the
search: no decimal that rounds to the number has fewer digits, none with as many is nearer to it,
and where ties go up none that is as near is larger. Nine digits always suffice, so the search never
ends without a hit.

Results:
* `exists_nine_digits`: how far the search goes at most.
* `isShortest_of_pick`: the first hit is the shortest decimal.
* `IsShortest.unique`: where ties go up, there is one only.
* `Scientific.shortest_spec`: what the search finds.
-/

namespace DialogueTree

/-! ## Decimals that round to a number -/

section Decimals

variable {m : ℕ} {e : ℤ} {tie : Tie} {q : ℚ}

theorem roundsTo_of_lt (hlow : m * 2 ^ e - halfBelow m e < q) (hhigh : q < m * 2 ^ e + 2 ^ e / 2) :
    RoundsTo m e q := by
  unfold RoundsTo
  split
  · exact ⟨hlow.le, hhigh.le⟩
  · exact ⟨hlow, hhigh⟩

theorem pos_of_roundsTo (hm : 0 < m) (h : RoundsTo m e q) : 0 < q := by
  have hpos : (0 : ℚ) < 2 ^ e := zpow_pos (by norm_num) e
  have hone : (1 : ℚ) * 2 ^ e ≤ m * 2 ^ e :=
    mul_le_mul_of_nonneg_right (by exact_mod_cast hm) hpos.le
  have hhalf : halfBelow m e ≤ 2 ^ e / 2 := by
    unfold halfBelow
    split <;> linarith
  unfold RoundsTo at h
  split at h <;> linarith [h.1]

theorem quarter_le_halfBelow (m : ℕ) (e : ℤ) : 2 ^ e / 4 ≤ halfBelow m e := by
  have hpos : (0 : ℚ) < 2 ^ e := zpow_pos (by norm_num) e
  unfold halfBelow
  split <;> linarith

/-- A number of single precision is on a grid of nine digits, up to rounding. -/
theorem exists_nine_digits (hm : 0 < m) (hlt : m < 2 ^ 24) :
    ∃ j : ℕ, RoundsTo m e (j * 10 ^ ((Span.ofBinary m e).leading - 8)) := by
  have hproper := Span.isProper_ofBinary hm e
  obtain ⟨hleading, -⟩ := Span.leading_spec hproper.den_pos (Nat.zero_lt_of_lt hproper.low_lt)
  have hle := Span.multiples_le hproper.den_pos ((Span.ofBinary m e).leading - 8)
  have hnext := Span.lt_multiples hproper.den_pos ((Span.ofBinary m e).leading - 8)
  rw [Span.value_ofBinary] at hleading hle hnext
  generalize (Span.ofBinary m e).leading = leading at *
  have hsplit : (10 : ℚ) ^ leading = 10 ^ (leading - 8) * 10 ^ 8 := by
    rw [zpow_sub₀ (by norm_num)]
    norm_num
  have hpos : (0 : ℚ) < 2 ^ e := zpow_pos (by norm_num) e
  have hm24 : (m : ℚ) * 2 ^ e < 2 ^ 24 * 2 ^ e :=
    mul_lt_mul_of_pos_right (by exact_mod_cast hlt) hpos
  have hgrid : (10 : ℚ) ^ (leading - 8) < 2 ^ e / 4 := by
    rw [hsplit] at hleading
    linarith
  have hquarter := quarter_le_halfBelow m e
  refine ⟨(Span.ofBinary m e).multiples (leading - 8), roundsTo_of_lt ?_ ?_⟩
  · push_cast at hnext
    linarith
  · linarith

/-- A decimal with few digits that rounds to a number has a multiple of a power of ten in its place
that does so too, as near to the number and not below the decimal: itself, or the power of ten of
the first digit. -/
theorem exists_multiple (hm : 0 < m) {c length : ℕ} {p : ℤ} (hc : c < 10 ^ length)
    (hrounds : RoundsTo m e (c * 10 ^ p)) :
    ∃ j : ℕ, RoundsTo m e (j * 10 ^ ((Span.ofBinary m e).leading - (length - 1 : ℕ))) ∧
      |j * 10 ^ ((Span.ofBinary m e).leading - (length - 1 : ℕ)) - (m * 2 ^ e : ℚ)| ≤
        |c * 10 ^ p - (m * 2 ^ e : ℚ)| ∧
      (c * 10 ^ p : ℚ) ≤ j * 10 ^ ((Span.ofBinary m e).leading - (length - 1 : ℕ)) := by
  have hproper := Span.isProper_ofBinary hm e
  obtain ⟨hleading, -⟩ := Span.leading_spec hproper.den_pos (Nat.zero_lt_of_lt hproper.low_lt)
  have hvalue := (Span.contains_ofBinary hm).mp hproper.contains_value
  rw [Span.value_ofBinary] at hleading hvalue
  generalize hplace : (Span.ofBinary m e).leading - (length - 1 : ℕ) = place
  rcases le_or_gt place p with hle | hlt
  · refine ⟨c * 10 ^ (p - place).toNat, ?_⟩
    have hsame : ((c * 10 ^ (p - place).toNat : ℕ) : ℚ) * 10 ^ place = c * 10 ^ p := by
      push_cast
      rw [mul_assoc, ← zpow_natCast, ← zpow_add₀ (by norm_num)]
      congr 2
      omega
    rw [hsame]
    exact ⟨hrounds, le_refl _, le_refl _⟩
  · refine ⟨10 ^ (length - 1), ?_⟩
    have hfirst : ((10 ^ (length - 1) : ℕ) : ℚ) * 10 ^ place =
        10 ^ (Span.ofBinary m e).leading := by
      push_cast
      rw [← zpow_natCast, ← zpow_add₀ (by norm_num)]
      congr 1
      omega
    have hbelow : (c : ℚ) * 10 ^ p ≤ 10 ^ (Span.ofBinary m e).leading := by
      have hcast : (c : ℚ) ≤ 10 ^ (length : ℤ) := by
        rw [zpow_natCast]
        exact_mod_cast hc.le
      calc (c : ℚ) * 10 ^ p ≤ 10 ^ (length : ℤ) * 10 ^ p :=
            mul_le_mul_of_nonneg_right hcast (zpow_nonneg (by norm_num) p)
        _ = 10 ^ (length + p) := (zpow_add₀ (by norm_num) _ _).symm
        _ ≤ 10 ^ (Span.ofBinary m e).leading :=
            zpow_le_zpow_right₀ (by norm_num) (by omega)
    rw [hfirst]
    refine ⟨?_, ?_, hbelow⟩
    · exact (Span.contains_ofBinary hm).mp (((Span.contains_ofBinary hm).mpr hrounds).between
        ((Span.contains_ofBinary hm).mpr hvalue) hbelow hleading)
    · rw [abs_sub_comm, abs_of_nonneg (sub_nonneg.mpr hleading), abs_sub_comm,
        abs_of_nonneg (sub_nonneg.mpr (hbelow.trans hleading))]
      exact sub_le_sub_left hbelow _

/-- Whether a decimal is the shortest that rounds to `m · 2 ^ e`, and of those the nearest. Of two
that are equally near it is the larger one, where ties go up. -/
structure IsShortest (tie : Tie) (m : ℕ) (e : ℤ) (c : ℕ) (p : ℤ) : Prop where
  rounds : RoundsTo m e (c * 10 ^ p)
  shortest (c' : ℕ) (p' : ℤ) (h : RoundsTo m e (c' * 10 ^ p')) :
    (Nat.toDigits 10 c).length ≤ (Nat.toDigits 10 c').length
  nearest (c' : ℕ) (p' : ℤ) (h : RoundsTo m e (c' * 10 ^ p'))
    (hlength : (Nat.toDigits 10 c').length = (Nat.toDigits 10 c).length) :
    |c * 10 ^ p - (m * 2 ^ e : ℚ)| ≤ |c' * 10 ^ p' - (m * 2 ^ e : ℚ)|
  larger (htie : tie = .up) (c' : ℕ) (p' : ℤ) (h : RoundsTo m e (c' * 10 ^ p'))
    (hlength : (Nat.toDigits 10 c').length = (Nat.toDigits 10 c).length)
    (hnear : |c' * 10 ^ p' - (m * 2 ^ e : ℚ)| ≤ |c * 10 ^ p - (m * 2 ^ e : ℚ)|) :
    (c' * 10 ^ p' : ℚ) ≤ c * 10 ^ p

/-- Where ties go up, there is one shortest decimal only. -/
theorem IsShortest.unique {c c' : ℕ} {p p' : ℤ} (h : IsShortest .up m e c p)
    (h' : IsShortest .up m e c' p') : (c * 10 ^ p : ℚ) = c' * 10 ^ p' := by
  have hlength := Nat.le_antisymm (h.shortest c' p' h'.rounds) (h'.shortest c p h.rounds)
  refine le_antisymm (h'.larger rfl c p h.rounds hlength ?_) (h.larger rfl c' p' h'.rounds
    hlength.symm ?_)
  · exact h.nearest c' p' h'.rounds hlength.symm
  · exact h'.nearest c p h.rounds hlength

/-- Nothing that is shorter than a grid allows rounds to a number if the grids before have no
hit. -/
theorem lt_length_of_roundsTo (hm : 0 < m) {k c : ℕ} {p : ℤ}
    (hbefore : ∀ j < k, (Span.ofBinary m e).pick tie ((Span.ofBinary m e).leading - j) = none)
    (h : RoundsTo m e (c * 10 ^ p)) : k < (Nat.toDigits 10 c).length := by
  by_contra hlt
  have hpos : 0 < (Nat.toDigits 10 c).length := Nat.length_toDigits_pos
  obtain ⟨j, hj, -, -⟩ := exists_multiple hm (Span.lt_pow_length c) h
  exact Span.not_contains_of_pick (Span.isProper_ofBinary hm e) (hbefore _ (by omega)) j
    ((Span.contains_ofBinary hm).mpr hj)

/-- What is found on a grid is the shortest if nothing is found on the grids before, and the hit has
no more digits than they allow. -/
theorem isShortest_of_pick (hm : 0 < m) {n k c : ℕ} {p : ℤ}
    (hpick : (Span.ofBinary m e).pick tie ((Span.ofBinary m e).leading - k) = some n)
    (hbefore : ∀ j < k, (Span.ofBinary m e).pick tie ((Span.ofBinary m e).leading - j) = none)
    (hsame : (c : ℚ) * 10 ^ p = n * 10 ^ ((Span.ofBinary m e).leading - k))
    (hc : c < 10 ^ (k + 1)) : IsShortest tie m e c p := by
  have hproper := Span.isProper_ofBinary hm e
  have hhit := Span.isHit_of_pick hproper hpick
  have hlength : (Nat.toDigits 10 c).length ≤ k + 1 :=
    (Nat.length_toDigits_le_iff (by omega) (Nat.succ_pos k)).mpr hc
  -- what is as short as the hit lies on its grid, or is matched by something that does
  have hgrid {c' : ℕ} {p' : ℤ} (h : RoundsTo m e (c' * 10 ^ p'))
      (hsize : (Nat.toDigits 10 c').length = (Nat.toDigits 10 c).length) :
      ∃ j : ℕ, (Span.ofBinary m e).Contains (j * 10 ^ ((Span.ofBinary m e).leading - k)) ∧
        |j * 10 ^ ((Span.ofBinary m e).leading - k) - (m * 2 ^ e : ℚ)| ≤
          |c' * 10 ^ p' - (m * 2 ^ e : ℚ)| ∧
        (c' * 10 ^ p' : ℚ) ≤ j * 10 ^ ((Span.ofBinary m e).leading - k) := by
    have hlonger := lt_length_of_roundsTo hm hbefore h
    have hk : (Nat.toDigits 10 c').length - 1 = k := by omega
    obtain ⟨j, hj, hmatch⟩ := exists_multiple hm (Span.lt_pow_length c') h
    rw [hk] at hj hmatch
    exact ⟨j, (Span.contains_ofBinary hm).mpr hj, hmatch⟩
  refine ⟨?_, fun c' p' h => hlength.trans (lt_length_of_roundsTo hm hbefore h),
    fun c' p' h hsize => ?_, fun htie c' p' h hsize hnear => ?_⟩
  · rw [hsame]
    exact (Span.contains_ofBinary hm).mp hhit.contains
  · obtain ⟨j, hj, hnear, -⟩ := hgrid h hsize
    have hbest := hhit.nearest j hj
    rw [Span.value_ofBinary] at hbest
    rw [hsame]
    exact hbest.trans hnear
  · obtain ⟨j, hj, hnear', hle⟩ := hgrid h hsize
    subst htie
    rw [hsame] at hnear ⊢
    have hj' : j ≤ n := Span.le_of_pick_up hproper hpick hj (by
      rw [Span.value_ofBinary]
      exact hnear'.trans hnear)
    exact hle.trans (mul_le_mul_of_nonneg_right (by exact_mod_cast hj')
      (zpow_nonneg (by norm_num) _))

end Decimals

/-! ## Digits -/

namespace Numeral

theorem ofDigits_append (ds ds' : List Digit) :
    ofDigits (ds ++ ds') = ofDigits ds * 10 ^ ds'.length + ofDigits ds' := by
  induction ds' using List.reverseRecOn with
  | nil => simp [ofDigits]
  | append_singleton ds' d ih =>
    rw [← List.append_assoc, ofDigits_concat, ofDigits_concat, ih, List.length_append,
      List.length_singleton, Nat.pow_succ]
    ring

theorem ofDigits_replicate_zero (n : ℕ) : ofDigits (List.replicate n Digit.zero) = 0 := by
  induction n with
  | zero => rfl
  | succ n ih =>
    rw [List.replicate_succ', ofDigits_concat, ih]
    rfl

/-- Digits without the zeros at their end. -/
theorem exists_trimmed (ds : List Digit) : ∃ zeros : ℕ,
    ds = ds.rdropWhile (· == Digit.zero) ++ List.replicate zeros Digit.zero := by
  have hsplit := List.takeWhile_append_dropWhile (p := (· == Digit.zero)) (l := ds.reverse)
  have hzeros : ds.reverse.takeWhile (· == Digit.zero) = List.replicate
      (ds.reverse.takeWhile (· == Digit.zero)).length Digit.zero :=
    List.eq_replicate_iff.mpr ⟨rfl, fun d hd =>
      beq_iff_eq.mp (List.mem_takeWhile_imp (p := (· == Digit.zero)) hd)⟩
  refine ⟨(ds.reverse.takeWhile (· == Digit.zero)).length, ?_⟩
  rw [hzeros] at hsplit
  have hreverse := congrArg List.reverse hsplit
  rw [List.reverse_append, List.reverse_replicate, List.reverse_reverse] at hreverse
  exact hreverse.symm

end Numeral

namespace Scientific

open Numeral

variable {tie : Tie} {m : ℕ} {e place : ℤ} {n : ℕ}

/-- Digits as a natural number, and the power of ten of the last of them. -/
def lastPlace (s : Scientific) : ℤ := s.exponent + 1 - s.digits.length

/-- A multiple of a power of ten keeps its value when it loses the zeros at its end. -/
theorem ofMultiple_spec (hn : 0 < n) (place : ℤ) :
    (∃ front last, (ofMultiple n place).digits = front ++ [last] ∧ last ≠ Digit.zero) ∧
      (ofDigits (ofMultiple n place).digits : ℚ) * 10 ^ (ofMultiple n place).lastPlace =
        n * 10 ^ place ∧
      ofDigits (ofMultiple n place).digits ≤ n := by
  obtain ⟨d, ds, hchars, hvalue, -, hfirst⟩ := exists_digits n
  have hall : (Nat.toDigits 10 n).filterMap Digit.ofChar? = d :: ds := by
    rw [hchars, List.filterMap_map, funext (f := Digit.ofChar? ∘ Digit.char) Digit.ofChar?_char,
      List.filterMap_some]
  obtain ⟨zeros, hzeros⟩ := exists_trimmed (d :: ds)
  have hdigits : (ofMultiple n place).digits = (d :: ds).rdropWhile (· == Digit.zero) := by
    unfold ofMultiple
    rw [hall]
    rfl
  have hexponent : (ofMultiple n place).exponent = place + (d :: ds).length - 1 := by
    unfold ofMultiple
    rw [hall]
  have hne : (ofMultiple n place).digits ≠ [] := by
    rw [hdigits]
    intro hnil
    have hzero := List.rdropWhile_eq_nil_iff.mp hnil d List.mem_cons_self
    exact hfirst hn.ne' (beq_iff_eq.mp hzero)
  have hlast := List.rdropWhile_last_not (· == Digit.zero) (d :: ds) (hdigits ▸ hne)
  rw [← hdigits] at hzeros
  have hlength : (d :: ds).length = (ofMultiple n place).digits.length + zeros := by
    rw [hzeros, List.length_append, List.length_replicate]
  have hn' : ofDigits (ofMultiple n place).digits * 10 ^ zeros = n := by
    have hof := congrArg ofDigits hzeros
    rw [hvalue, ofDigits_append, ofDigits_replicate_zero, List.length_replicate,
      Nat.add_zero] at hof
    exact hof.symm
  refine ⟨⟨_, _, (List.dropLast_append_getLast hne).symm, fun hzero => hlast ?_⟩, ?_, ?_⟩
  · exact beq_iff_eq.mpr ((List.getLast_congr _ _ hdigits.symm).trans hzero)
  · have hplace : (ofMultiple n place).lastPlace = zeros + place := by
      unfold lastPlace
      omega
    rw [hplace, zpow_add₀ (by norm_num), zpow_natCast, ← mul_assoc]
    congr 1
    exact_mod_cast hn'
  · calc ofDigits (ofMultiple n place).digits
        ≤ ofDigits (ofMultiple n place).digits * 10 ^ zeros :=
          Nat.le_mul_of_pos_right _ (Nat.pow_pos (by omega))
      _ = n := hn'

/-- The first of some tries that succeeds. -/
theorem findSome?_range {α : Type} {f : ℕ → Option α} {k tries : ℕ} {a : α} (hk : k < tries)
    (hfound : f k = some a) (hbefore : ∀ j < k, f j = none) :
    (List.range tries).findSome? f = some a := by
  obtain ⟨more, rfl⟩ := Nat.exists_eq_add_of_lt hk
  have hnone : (List.range k).findSome? f = none :=
    List.findSome?_eq_none_iff.mpr fun j hj => hbefore j (List.mem_range.mp hj)
  rw [Nat.add_assoc, List.range_add, List.findSome?_append, hnone, Option.none_or,
    List.range_succ_eq_map, List.map_cons, Nat.add_zero, List.findSome?_cons, hfound]

/-- The search has a hit with nine digits or fewer. -/
theorem exists_first_pick (tie : Tie) (hm : 0 < m) (hlt : m < 2 ^ 24) (e : ℤ) :
    ∃ k n : ℕ, k < 9 ∧ (Span.ofBinary m e).pick tie ((Span.ofBinary m e).leading - k) = some n ∧
      ∀ j < k, (Span.ofBinary m e).pick tie ((Span.ofBinary m e).leading - (j : ℕ)) = none := by
  obtain ⟨j, hj⟩ := exists_nine_digits (e := e) hm hlt
  have hsome : (Span.ofBinary m e).pick tie ((Span.ofBinary m e).leading - (8 : ℕ)) ≠ none :=
    fun hnone => Span.not_contains_of_pick (Span.isProper_ofBinary hm e) hnone j
      ((Span.contains_ofBinary hm).mpr hj)
  have hex : ∃ k : ℕ, (Span.ofBinary m e).pick tie ((Span.ofBinary m e).leading - k) ≠ none :=
    ⟨8, hsome⟩
  obtain ⟨n, hn⟩ := Option.ne_none_iff_exists'.mp (Nat.find_spec hex)
  exact ⟨Nat.find hex, n, Nat.lt_succ_of_le (Nat.find_min' hex hsome), hn,
    fun j hj => not_not.mp (Nat.find_min hex hj)⟩

/-- A hit has no more digits than its grid allows, but for a power of ten. -/
theorem pick_le_pow (hm : 0 < m) {k : ℕ}
    (h : (Span.ofBinary m e).pick tie ((Span.ofBinary m e).leading - k) = some n) :
    n ≤ 10 ^ (k + 1) := by
  have hproper := Span.isProper_ofBinary hm e
  obtain ⟨-, hleading⟩ := Span.leading_spec hproper.den_pos (Nat.zero_lt_of_lt hproper.low_lt)
  have hle := Span.multiples_le hproper.den_pos ((Span.ofBinary m e).leading - k)
  have hsplit : (10 : ℚ) ^ ((Span.ofBinary m e).leading + 1) =
      10 ^ (k + 1) * 10 ^ ((Span.ofBinary m e).leading - k) := by
    rw [← zpow_natCast, ← zpow_add₀ (by norm_num)]
    congr 1
    push_cast
    ring
  rw [hsplit] at hleading
  have hlt := lt_of_mul_lt_mul_right (hle.trans_lt hleading) (zpow_nonneg (by norm_num) _)
  have hlt' : (Span.ofBinary m e).multiples ((Span.ofBinary m e).leading - k) < 10 ^ (k + 1) := by
    exact_mod_cast hlt
  rcases Span.pick_cases h with rfl | rfl
  · exact hlt'.le
  · exact hlt'

/-- The search finds the shortest decimal that rounds to a number of single precision, and the one
nearest to it. No zero stands at its end. -/
theorem shortest_spec (tie : Tie) (hm : 0 < m) (hlt : m < 2 ^ 24) (e : ℤ) :
    (∃ front last, (shortest tie m e).digits = front ++ [last] ∧ last ≠ Digit.zero) ∧
      IsShortest tie m e (ofDigits (shortest tie m e).digits) (shortest tie m e).lastPlace := by
  have hproper := Span.isProper_ofBinary hm e
  obtain ⟨k, n, hnine, hk, hbefore⟩ := exists_first_pick tie hm hlt e
  have hfound : shortest tie m e = ofMultiple n ((Span.ofBinary m e).leading - k) := by
    unfold shortest
    dsimp only
    rw [findSome?_range hnine (by rw [hk, Option.map_some]) fun j hj => by
      rw [hbefore j hj, Option.map_none], Option.getD_some]
  have hhit := Span.isHit_of_pick hproper hk
  have hpos : 0 < n := by
    refine Nat.pos_of_ne_zero fun hzero => ?_
    have hrounds := (Span.contains_ofBinary hm).mp hhit.contains
    rw [hzero, Nat.cast_zero, zero_mul] at hrounds
    exact lt_irrefl _ (pos_of_roundsTo hm hrounds)
  obtain ⟨hdigits, hsame, hle⟩ := ofMultiple_spec hpos ((Span.ofBinary m e).leading - k)
  rw [hfound]
  refine ⟨hdigits, isShortest_of_pick hm hk hbefore hsame ?_⟩
  refine Nat.lt_of_le_of_ne (hle.trans (pick_le_pow hm hk)) fun hpow => ?_
  obtain ⟨front, last, hdigits, hlast⟩ := hdigits
  rw [hdigits, ofDigits_concat, Nat.pow_succ] at hpow
  exact hlast (Fin.ext (show last.val = 0 by omega))

end Scientific

end DialogueTree
