import DialogueTree.Decimal.Reading
import Mathlib.Algebra.Group.Nat.Defs

/-!
# Products in double precision

Numbers are read in double precision as their leading digits times a power of ten. For powers that
single precision knows of, the product stays far below the largest number of double precision, so
that it never becomes infinite. What is followed through the rounding is only the exponent.

Results:
* `Double.exponentLe_round`: rounding hardly changes the exponent.
* `Double.unpack_cases`, `Double.fits_unpack_pack`: packing keeps it.
* `Double.isInf_mul_tenPower`: the product is not infinite.
-/

namespace DialogueTree

namespace Double

open Float.Model Float.Model.UnpackedFloat

/-- Whether a number is finite and its exponent at most `n`. -/
def ExponentLe (n : Int) : UnpackedFloat → Prop
  | .zero _ => True
  | .finite _ _ e _ => e ≤ n
  | _ => False

/-- Whether a number is finite, its exponent at most `n`, and its digits those of double
precision. -/
def Fits (n : Int) : UnpackedFloat → Prop
  | .zero _ => True
  | .finite _ m e _ => m < 2 ^ 53 ∧ e ≤ n
  | _ => False

instance (n : Int) (u : UnpackedFloat) : Decidable (Fits n u) := by
  cases u <;> unfold Fits <;> infer_instance

/-! ## Rounding -/

theorem log2_le_of_lt {n k : Nat} (h : n < 2 ^ (k + 1)) : n.log2 ≤ k := by
  by_cases hzero : n = 0
  · rw [hzero]
    exact Nat.zero_le k
  · exact Nat.lt_succ_iff.mp ((Nat.log2_lt hzero).mpr h)

theorem mantissa_shiftRight (em : ExtendedMantissa) (k : Nat) :
    (em >>> k).mantissa = em.mantissa / 2 ^ k := by
  induction k with
  | zero => simp [HShiftRight.hShiftRight, Nat.repeat]
  | succ k ih =>
    have hstep : (em >>> (k + 1)).mantissa = (em >>> k).mantissa / 2 := rfl
    rw [hstep, ih, Nat.div_div_eq_div_mul, ← Nat.pow_succ]

theorem roundedMantissa_le (em : ExtendedMantissa) : em.roundedMantissa ≤ em.mantissa + 1 := by
  obtain ⟨m, round, sticky⟩ := em
  cases round <;> cases sticky <;>
    simp only [ExtendedMantissa.roundedMantissa, ExtendedMantissa.accuracy,
      Accuracy.roundToNearestEven] <;> omega

/-- How far the digits of a number are shifted for double precision. -/
def shift (m : Nat) (e : Int) : Nat :=
  (Format.binary64.targetExponent (totalExponent m e) - e).toNat

theorem target_eq (m : Nat) (e : Int) :
    Format.binary64.targetExponent (totalExponent m e) = max (m.log2 + e - 52) (-1074) := by
  have htarget : Format.binary64.targetExponent (totalExponent m e) =
      max (m.log2 + 1 + e - 53) (-1074) := rfl
  rw [htarget]
  omega

theorem shiftToTargetExponent_fst (m : Nat) (e : Int) (a : Accuracy) :
    (shiftToTargetExponent .binary64 m e a).1.mantissa = m / 2 ^ shift m e := by
  have hstart : (ExtendedMantissa.ofMantissaAndAccuracy m a).mantissa = m := by
    cases a with
    | exact => rfl
    | inexact o => cases o <;> rfl
  unfold shiftToTargetExponent shiftToExponent
  dsimp only
  rw [mantissa_shiftRight, hstart]
  rfl

/-- The digits that are left after the shift. -/
theorem div_shift_lt (m : Nat) (e : Int) : m / 2 ^ shift m e < 2 ^ 53 := by
  rw [Nat.div_lt_iff_lt_mul (Nat.two_pow_pos _), ← Nat.pow_add]
  have hlog : m.log2 + 1 ≤ 53 + shift m e := by
    unfold shift
    rw [target_eq]
    omega
  exact Nat.lt_of_lt_of_le Nat.lt_log2_self (Nat.pow_le_pow_right (by omega) hlog)

/-- The digits after the first shift, rounded. -/
def roundedDigits (m : Nat) (e : Int) (a : Accuracy) : Nat :=
  (shiftToTargetExponent .binary64 m e a).1.roundedMantissa

/-- Rounding shifts twice, since the rounded digits may be one too many. -/
theorem round_cases (s : Sign) (m : Nat) (e : Int) (a : Accuracy) :
    roundWithAccuracy .binary64 s m e a = .zero s ∨
    ∃ m' hm, roundWithAccuracy .binary64 s m e a =
      .finite s m' (e + shift m e + shift (roundedDigits m e a) (e + shift m e)) hm := by
  let m' := (shiftToTargetExponent .binary64 (roundedDigits m e a) (e + shift m e)
    .exact).1.mantissa
  by_cases hzero : m' = 0
  · exact .inl (dif_pos hzero)
  · exact .inr ⟨m', Nat.pos_of_ne_zero hzero, dif_neg hzero⟩

/-- Rounding a number of up to 106 digits. -/
theorem exponentLe_round {s : Sign} {m : Nat} {e n : Int} {a : Accuracy} (hm : m.log2 ≤ 105)
    (he : e + 54 ≤ n) (hn : -1073 ≤ n) : ExponentLe n (roundWithAccuracy .binary64 s m e a) := by
  have hfirst : e + shift m e ≤ n - 1 := by
    unfold shift
    rw [target_eq]
    omega
  have hrounded : roundedDigits m e a ≤ m / 2 ^ shift m e + 1 := by
    rw [← shiftToTargetExponent_fst m e a]
    exact roundedMantissa_le _
  have hdigits := div_shift_lt m e
  have hlog : (roundedDigits m e a).log2 ≤ 53 := log2_le_of_lt (by omega)
  have hsecond : e + shift m e + shift (roundedDigits m e a) (e + shift m e) ≤ n := by
    unfold shift at hfirst hlog ⊢
    rw [target_eq] at hfirst ⊢
    rw [target_eq]
    omega
  rcases round_cases s m e a with hzero | ⟨m', hm', hfinite⟩
  · rw [hzero]
    trivial
  · rw [hfinite]
    exact hsecond

/-! ## Packing -/

/-- How a finite number is packed: as an infinity, a normal number or a subnormal one. -/
theorem pack_finite (s : Sign) (m : Nat) (e : Int) (hm : 0 < m) :
    UnpackedFloat.pack .binary64 (.finite s m e hm) =
      if 2048 ≤ (e + 1023 + 52).toNat + 1 then packedInfinity .binary64 s
      else if m.log2 + 1 = 53 then
        packComponents .binary64 s (BitVec.ofNat _ (e + 1023 + 52).toNat) (BitVec.ofNat _ m)
      else packComponents .binary64 s 0#_ (BitVec.ofNat _ m) := rfl

/-- The exponent of what has been packed, as it is stored. -/
theorem unpackExponent_pack {n : Int} {u : UnpackedFloat} (h : ExponentLe n u) (hn : n ≤ 970) :
    (unpackExponent (UnpackedFloat.pack .binary64 u)).toNat ≤ (n + 1075).toNat := by
  cases u with
  | notANumber | infinity => exact h.elim
  | zero s =>
    have hpack : UnpackedFloat.pack .binary64 (.zero s) =
        packComponents .binary64 s 0#_ 0#_ := rfl
    rw [hpack, unpackExponent_packComponents]
    exact Nat.zero_le _
  | finite s m e hm =>
    have hexp : e ≤ n := h
    rw [pack_finite, if_neg (by omega)]
    split
    · rw [unpackExponent_packComponents, BitVec.toNat_ofNat]
      refine Nat.le_trans (Nat.mod_le _ _) ?_
      omega
    · rw [unpackExponent_packComponents]
      exact Nat.zero_le _

/-- What a bit pattern stands for. -/
theorem unpack_cases {spec : Format} (b : BitVec spec.numBits) :
    (unpackExponent b = -1#_ ∧ (UnpackedFloat.unpack spec b = .notANumber ∨
      ∃ s, UnpackedFloat.unpack spec b = .infinity s)) ∨
    (unpackExponent b ≠ -1#_ ∧ ((∃ s, UnpackedFloat.unpack spec b = .zero s) ∨
      ∃ s m e hm, UnpackedFloat.unpack spec b = .finite s m e hm ∧
        m < 2 ^ (1 + spec.mantissaBitsWithoutImplicit) ∧
        e + (spec.exponentBias + spec.mantissaBitsWithoutImplicit) ≤
          max 1 (unpackExponent b).toNat)) := by
  have hmantissa := (unpackMantissa b).isLt
  unfold UnpackedFloat.unpack
  dsimp only
  by_cases hone : unpackExponent b = -1#_
  · rw [if_pos hone]
    refine .inl ⟨hone, ?_⟩
    by_cases hzero : unpackMantissa b = 0#_
    · rw [if_pos hzero]
      exact .inr ⟨_, rfl⟩
    · rw [if_neg hzero]
      exact .inl rfl
  · rw [if_neg hone]
    refine .inr ⟨hone, ?_⟩
    by_cases hsub : unpackExponent b = 0#_
    · rw [if_pos hsub]
      by_cases hzero : unpackMantissa b = 0#_
      · rw [dif_pos hzero]
        exact .inl ⟨_, rfl⟩
      · rw [dif_neg hzero]
        have hpos : 0 < (unpackMantissa b).toNat :=
          Nat.pos_of_ne_zero fun h => hzero (BitVec.eq_of_toNat_eq (h.trans BitVec.toNat_zero.symm))
        refine .inr ⟨_, _, _, hpos, rfl, ?_, ?_⟩
        · exact Nat.lt_of_lt_of_le hmantissa (Nat.pow_le_pow_right (by omega) (by omega))
        · have hstored : (unpackExponent b).toNat = 0 := by rw [hsub, BitVec.toNat_zero]
          omega
    · rw [if_neg hsub]
      have hpos : 0 < (1#1 ++ unpackMantissa b).toNat := by simp
      refine .inr ⟨_, _, _, hpos, rfl, (1#1 ++ unpackMantissa b).isLt, ?_⟩
      omega

/-- What a bit pattern stands for whose exponent is within range. -/
theorem fits_unpack {b : BitVec Format.binary64.numBits} {n : Int} (hlow : -1074 ≤ n)
    (hn : n ≤ 970) (hexp : (unpackExponent b).toNat ≤ (n + 1075).toNat) :
    Fits n (UnpackedFloat.unpack .binary64 b) := by
  have hbias : Format.exponentBias .binary64 = 1023 := by decide
  have hdigits : Format.mantissaBitsWithoutImplicit .binary64 = 52 := rfl
  rcases unpack_cases b with ⟨hone, -⟩ | ⟨-, ⟨s, hzero⟩ | ⟨s, m, e, hm, hfinite, hlt, hle⟩⟩
  · have hall : (-1#(Format.exponentBits .binary64)).toNat = 2047 := by decide
    rw [hone, hall] at hexp
    omega
  · rw [hzero]
    trivial
  · rw [hfinite]
    rw [hbias, hdigits] at hle
    exact ⟨hlt, by omega⟩

/-- Packing keeps a number whose exponent is within range. -/
theorem fits_unpack_pack {n : Int} {u : UnpackedFloat} (h : ExponentLe n u) (hlow : -1074 ≤ n)
    (hn : n ≤ 970) : Fits n (Float.Model.pack u).unpack :=
  fits_unpack hlow hn (unpackExponent_pack h hn)

/-! ## Products -/

theorem exponentLe_mul {n n' : Int} {u v : UnpackedFloat} (hu : Fits n u) (hv : Fits n' v)
    (hlow : -1073 ≤ n + n' + 54) : ExponentLe (n + n' + 54) (UnpackedFloat.mul .binary64 u v) := by
  cases u with
  | notANumber | infinity => exact hu.elim
  | zero s =>
    cases v with
    | notANumber | infinity => exact hv.elim
    | zero | finite => trivial
  | finite s m e hm =>
    cases v with
    | notANumber | infinity => exact hv.elim
    | zero => trivial
    | finite s' m' e' hm' =>
      obtain ⟨hdigits, hexp⟩ := hu
      obtain ⟨hdigits', hexp'⟩ := hv
      have hmul : m * m' < 2 ^ 106 := by
        calc m * m' < 2 ^ 53 * 2 ^ 53 := Nat.mul_lt_mul_of_lt_of_lt hdigits hdigits'
          _ = 2 ^ 106 := by decide
      have hlog := (Nat.log2_lt (Nat.mul_ne_zero (Nat.ne_of_gt hm) (Nat.ne_of_gt hm'))).mpr hmul
      exact exponentLe_round (by omega) (by omega) hlow

/-- Rounding a natural number of 64 bits, whose digits are moved up first. -/
theorem exponentLe_round_nat {s : Sign} {m : Nat} (hm : m < 2 ^ 64) :
    ExponentLe 54 (UnpackedFloat.round .binary64 s m 0) := by
  have hlog : m.log2 ≤ 63 := log2_le_of_lt hm
  let k : Nat := (0 - Format.binary64.targetExponent (totalExponent m 0)).toNat
  have hk : m.log2 + 1 + k ≤ 64 := by
    dsimp only [k]
    rw [target_eq]
    omega
  have hshifted : m <<< k < 2 ^ (105 + 1) := by
    rw [Nat.shiftLeft_eq]
    calc m * 2 ^ k < 2 ^ (m.log2 + 1) * 2 ^ k :=
          Nat.mul_lt_mul_of_pos_right Nat.lt_log2_self (Nat.two_pow_pos k)
      _ = 2 ^ (m.log2 + 1 + k) := (Nat.pow_add ..).symm
      _ ≤ 2 ^ (105 + 1) := Nat.pow_le_pow_right (by omega) (by omega)
  have hround : UnpackedFloat.round .binary64 s m 0 =
      roundWithAccuracy .binary64 s (m <<< k) (0 - k) .exact := rfl
  rw [hround]
  exact exponentLe_round (log2_le_of_lt hshifted) (by omega) (by omega)

/-- A natural number of 64 bits. -/
theorem fits_toFloat (n : UInt64) : Fits 54 n.toFloat.toModel.unpack := by
  refine fits_unpack_pack ?_ (by omega) (by omega)
  have hn : n.toNat < 2 ^ 64 := n.toNat_lt
  unfold UnpackedFloat.ofUInt64 UnpackedFloat.ofNat UnpackedFloat.ofInt UnpackedFloat.normalize
  split
  · exact exponentLe_round_nat (by omega)
  · trivial
  · exact exponentLe_round_nat (by omega)

/-- The powers of ten up to `10 ^ 100`. -/
theorem fits_tenPower {k : Nat} (h : k ≤ 100) :
    Fits 280 (Numeral.tenPower k).toModel.unpack := by
  have hall : ∀ k : Fin 101, Fits 280 (Numeral.tenPower k.val).toModel.unpack := by
    decide +kernel
  exact hall ⟨k, by omega⟩

/-- A natural number of 64 bits times a power of ten. -/
theorem isInf_mul_tenPower (n : UInt64) {k : Nat} (h : k ≤ 100) :
    (n.toFloat * Numeral.tenPower k).isInf = false := by
  have hmul := exponentLe_mul (fits_toFloat n) (fits_tenPower h) (by omega)
  have hfits := fits_unpack_pack hmul (by omega) (by omega)
  have hinf : (n.toFloat * Numeral.tenPower k).isInf =
    (Float.Model.pack (UnpackedFloat.mul .binary64 n.toFloat.toModel.unpack
      (Numeral.tenPower k).toModel.unpack)).unpack.isInf := rfl
  rw [hinf]
  revert hfits
  cases (Float.Model.pack (UnpackedFloat.mul .binary64 n.toFloat.toModel.unpack
      (Numeral.tenPower k).toModel.unpack)).unpack with
  | infinity s => exact fun h => h.elim
  | notANumber | zero | finite => exact fun _ => rfl

end Double

end DialogueTree
