import DialogueTree.Json.Number
import DialogueTree.Proofs.Decimal.Double

/-!
# Numerals of finite numbers are read

Whatever is read as a number with a point is read in double precision first. The numeral of a
finite number in single precision has so few digits before the point, and so small a power of ten,
that the number in double precision is finite, and then there is one in single precision.

Results:
* `Numeral.exists_toFloat?`, `Numeral.exists_toFloat32?`: numerals of a size that can always be
  read.
* `Scientific.exponent_shortest_le`: the power of ten of the shortest digits.
* `Numeral.exists_toFloat?_ofFloat32?`: numerals of finite numbers.
-/

namespace DialogueTree

/-! ## Reading numerals of a limited size -/

namespace Numeral

theorem Leading.place_whole_le (l : Leading) (d : Nat) : (l.whole d).place ≤ l.place + 1 := by
  unfold Leading.whole
  split
  · dsimp only
    omega
  · exact Int.le_refl _

theorem Leading.place_fraction_le (l : Leading) (d : Nat) : (l.fraction d).place ≤ l.place := by
  unfold Leading.fraction
  split
  · dsimp only
    omega
  · exact Int.le_refl _

theorem Leading.place_foldl_whole_le (cs : List Char) (l : Leading) :
    (cs.foldl (fun (l : Leading) c => l.whole (c.toNat - 48)) l).place ≤ l.place + cs.length := by
  induction cs generalizing l with
  | nil => simp
  | cons c cs ih =>
    have hstep := l.place_whole_le (c.toNat - 48)
    have hrest := ih (l.whole (c.toNat - 48))
    rw [List.foldl_cons, List.length_cons]
    omega

theorem Leading.place_foldl_fraction_le (ds : List Digit) (l : Leading) :
    (ds.foldl (fun (l : Leading) d => l.fraction d.val) l).place ≤ l.place := by
  induction ds generalizing l with
  | nil => exact Int.le_refl _
  | cons d ds ih =>
    have hstep := l.place_fraction_le d.val
    have hrest := ih (l.fraction d.val)
    rw [List.foldl_cons]
    omega

/-- The leading digits stand no higher than the whole part has digits. -/
theorem place_leading_le (n : Numeral) : n.leading.place ≤ (Nat.toDigits 10 n.whole).length := by
  unfold leading
  refine Int.le_trans (Leading.place_foldl_fraction_le n.fraction _) ?_
  have hwhole := Leading.place_foldl_whole_le (Nat.toDigits 10 n.whole) ⟨0, 0, true⟩
  simpa using hwhole

theorem exists_scale? (v : UInt64) {place : Int} (h : place ≤ 100) :
    ∃ y, scale? v.toFloat place = some y := by
  unfold scale?
  dsimp only
  split
  next hplace =>
    have hk : place.natAbs ≤ 100 := by omega
    rw [if_pos (by omega), Double.isInf_mul_tenPower v hk]
    exact ⟨_, rfl⟩
  · split
    · exact ⟨_, rfl⟩
    · split <;> exact ⟨_, rfl⟩

/-- A numeral with few digits before the point and no large power of ten is within the range of
double precision. -/
theorem exists_toFloat? {n : Numeral} (hwhole : n.whole < 10 ^ 20)
    (hexponent : ∀ e, n.exponent = some e → e ≤ 80) : ∃ y, n.toFloat? = some y := by
  have hlength := (Nat.length_toDigits_le_iff (by omega) (by omega)).mpr hwhole
  have hplace := n.place_leading_le
  obtain ⟨y, hy⟩ : ∃ y, n.magnitude? = some y := by
    unfold magnitude?
    dsimp only
    split
    · exact exists_scale? _ (by omega)
    next e he =>
      have hle := hexponent e he
      split
      · exact exists_scale? _ (by omega)
      next hlarge =>
        have hnegative : ¬(n.leading.value ≠ 0 ∧ 0 ≤ e) := by
          unfold exponentLimit at hlarge
          omega
        rw [if_neg hnegative]
        exact ⟨_, rfl⟩
  unfold toFloat?
  rw [hy]
  exact ⟨_, rfl⟩

/-- What is within the range of double precision, can be read in single precision. -/
theorem exists_toFloat32? {n : Numeral} (h : ∃ y, n.toFloat? = some y) :
    ∃ y, n.toFloat32? = some y := by
  obtain ⟨y, hy⟩ := h
  unfold toFloat32?
  rw [hy]
  split
  · split <;> exact ⟨_, rfl⟩
  · exact ⟨_, rfl⟩

/-! ## Layouts -/

theorem ofDigits_lt (ds : List Digit) : ofDigits ds < 10 ^ ds.length := by
  have hfold (n : Nat) : ds.foldl (fun n d => 10 * n + d.val) n < (n + 1) * 10 ^ ds.length := by
    induction ds generalizing n with
    | nil => simp
    | cons d ds ih =>
      rw [List.foldl_cons, List.length_cons, Nat.pow_succ]
      refine Nat.lt_of_lt_of_le (ih _) ?_
      have hd : 10 * n + d.val + 1 ≤ (n + 1) * 10 := by omega
      calc (10 * n + d.val + 1) * 10 ^ ds.length ≤ (n + 1) * 10 * 10 ^ ds.length :=
            Nat.mul_le_mul_right _ hd
        _ = (n + 1) * (10 ^ ds.length * 10) := by
          rw [Nat.mul_assoc, Nat.mul_comm 10]
  have hzero := hfold 0
  rwa [Nat.zero_add, Nat.one_mul] at hzero

theorem whole_positional_lt {negative point : Bool} {s : Scientific} (h : s.exponent ≤ 12) :
    (positional negative point s).whole < 10 ^ 20 := by
  refine Nat.lt_of_lt_of_le (ofDigits_lt _) (Nat.pow_le_pow_right (by omega) ?_)
  rw [List.length_append, List.length_take, List.length_replicate]
  omega

theorem whole_scientific_lt (negative : Bool) (s : Scientific) :
    (scientific negative s).whole < 10 ^ 20 := by
  refine Nat.lt_of_lt_of_le (ofDigits_lt _) (Nat.pow_le_pow_right (by omega) ?_)
  rw [List.length_take]
  omega

/-- Digits with no large power of ten, as they are written in JSON. -/
theorem exists_toFloat?_ofScientific (negative : Bool) {s : Scientific} (h : s.exponent ≤ 80) :
    ∃ y, (ofScientific Layout.json negative s).toFloat? = some y := by
  unfold ofScientific
  split
  next hpositional =>
    have hle : s.exponent ≤ 12 := by
      simp only [Layout.json, Bool.and_eq_true, decide_eq_true_eq] at hpositional
      exact hpositional.2
    refine exists_toFloat? (whole_positional_lt hle) ?_
    intro e he
    cases he
  · refine exists_toFloat? (whole_scientific_lt negative s) ?_
    intro e he
    cases he
    exact h

end Numeral

/-! ## Shortest digits -/

theorem Scientific.exponent_ofMultiple_le {c k : Nat} (hk : 0 < k) (hc : c < 10 ^ k) (place : Int) :
    (ofMultiple c place).exponent ≤ place + k - 1 := by
  have hlength := (Nat.length_toDigits_le_iff (by omega) hk).mpr hc
  have hfilter := List.length_filterMap_le Digit.ofChar? (Nat.toDigits 10 c)
  unfold ofMultiple
  dsimp only
  omega

namespace Span

theorem pick_le {tie : Tie} {s : Span} {place : Int} {c : Nat} (h : s.pick tie place = some c) :
    c ≤ s.mid * 10 ^ (-place).toNat + 1 := by
  have hdiv := Nat.div_le_self (s.mid * Nat.pow 10 (-place).toNat)
    (s.den * Nat.pow 10 place.toNat)
  have hle : ∀ c', c' ≤ s.mid * Nat.pow 10 (-place).toNat / (s.den * Nat.pow 10 place.toNat) + 1 →
      c' ≤ s.mid * 10 ^ (-place).toNat + 1 := fun c' hc' => by
    have hpow : Nat.pow 10 (-place).toNat = 10 ^ (-place).toNat := rfl
    rw [hpow] at hdiv hc'
    omega
  apply hle
  unfold pick at h
  dsimp only at h
  split at h
  · split at h
    · cases h
      omega
    · cases h
      omega
    · cases h
      split <;> omega
  · cases h
    omega
  · cases h
    omega
  · cases h

theorem leading_le {s : Span} {k : Nat} (hk : 0 < k) (h : s.mid < 10 ^ k) : s.leading ≤ k - 1 := by
  have hlength := (Nat.length_toDigits_le_iff (by omega) hk).mpr h
  have hpos : 0 < (Nat.toDigits 10 s.den).length := Nat.length_toDigits_pos
  unfold leading
  dsimp only
  split <;> omega

theorem mid_ofBinary_lt {m : Nat} {e : Int} (hm : m < 2 ^ 24) (he : e ≤ 104) :
    (ofBinary m e).mid < 10 ^ 39 := by
  have hscale : Nat.pow 2 (e - 2).toNat ≤ 2 ^ 102 := Nat.pow_le_pow_right (by omega) (by omega)
  have hfour : 4 * m ≤ 2 ^ 26 := by omega
  calc 4 * m * Nat.pow 2 (e - 2).toNat ≤ 2 ^ 26 * 2 ^ 102 := Nat.mul_le_mul hfour hscale
    _ < 10 ^ 39 := by decide

end Span

/-- The power of ten of the shortest digits of a number in single precision. -/
theorem Scientific.exponent_shortest_le (tie : Tie) {m : Nat} {e : Int} (hm : m < 2 ^ 24)
    (he : e ≤ 104) : (shortest tie m e).exponent ≤ 80 := by
  have hmid := Span.mid_ofBinary_lt hm he
  have hleading := Span.leading_le (by omega) hmid
  unfold shortest
  dsimp only
  generalize Span.ofBinary m e = s at *
  cases hfound : (List.range 9).findSome? fun (k : Nat) =>
      (s.pick tie (s.leading - k)).map (ofMultiple · (s.leading - k)) with
  | none =>
    have hdiv := Nat.lt_of_le_of_lt (Nat.div_le_self s.mid s.den) hmid
    have hle := exponent_ofMultiple_le (by omega) hdiv 0
    rw [Option.getD_none]
    omega
  | some found =>
    obtain ⟨k, -, hk⟩ := List.exists_of_findSome?_eq_some hfound
    obtain ⟨c, hc, rfl⟩ := Option.map_eq_some_iff.mp hk
    rw [Option.getD_some]
    generalize hplace : s.leading - (k : Int) = place at *
    have hcount : c < 10 ^ (40 + (-place).toNat) := by
      have hpos : 0 < 10 ^ (-place).toNat := Nat.pow_pos (by omega)
      have hle := Span.pick_le hc
      calc c ≤ s.mid * 10 ^ (-place).toNat + 1 := hle
        _ ≤ s.mid * 10 ^ (-place).toNat + 10 ^ (-place).toNat := by omega
        _ = (s.mid + 1) * 10 ^ (-place).toNat := by rw [Nat.add_mul, Nat.one_mul]
        _ < 10 ^ 40 * 10 ^ (-place).toNat := Nat.mul_lt_mul_of_pos_right (by omega) hpos
        _ = 10 ^ (40 + (-place).toNat) := (Nat.pow_add ..).symm
    have hexponent := exponent_ofMultiple_le (by omega) hcount place
    omega

/-! ## Numbers in single precision -/

open Float.Model Float.Model.UnpackedFloat in
/-- The digits and the exponent of a finite number in single precision. -/
theorem Numeral.bounds_of_unpack {b : BitVec Format.binary32.numBits} {s : Sign} {m : Nat} {e : Int}
    {hm : 0 < m} (h : UnpackedFloat.unpack .binary32 b = .finite s m e hm) :
    m < 2 ^ 24 ∧ e ≤ 104 := by
  have hstored : (unpackExponent b).toNat < 2 ^ 8 := (unpackExponent b).isLt
  have hbias : Format.exponentBias .binary32 = 127 := by decide
  have hdigits : Format.mantissaBitsWithoutImplicit .binary32 = 23 := rfl
  rcases Double.unpack_cases b with
    ⟨-, hnan | ⟨s', hinf⟩⟩ | ⟨hone, ⟨s', hzero⟩ | ⟨s', m', e', hm', hfinite, hlt, hle⟩⟩
  · rw [hnan] at h
    cases h
  · rw [hinf] at h
    cases h
  · rw [hzero] at h
    cases h
  · rw [hfinite] at h
    cases h
    have hlast : (unpackExponent b).toNat ≠ 255 := fun hlast => hone (BitVec.eq_of_toNat_eq hlast)
    rw [hbias, hdigits] at hle
    exact ⟨hlt, by omega⟩

/-- The numeral of a finite number is within the range of double precision. -/
theorem Numeral.exists_toFloat?_ofFloat32? {x : Float32} {n : Numeral}
    (h : ofFloat32? Layout.json x = some n) : ∃ y, n.toFloat? = some y := by
  unfold ofFloat32? at h
  split at h
  · cases h
  · cases h
  · cases h
    exact exists_toFloat?_ofScientific _ (by decide)
  next s m e hm hx =>
    cases h
    obtain ⟨hdigits, hexponent⟩ := bounds_of_unpack hx
    exact exists_toFloat?_ofScientific _ (Scientific.exponent_shortest_le _ hdigits hexponent)

end DialogueTree
