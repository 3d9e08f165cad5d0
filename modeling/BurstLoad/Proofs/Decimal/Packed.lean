import BurstLoad.Decimal.Whole
import Mathlib

/-! Floating-point numbers of 64 bits by their sign, exponent and fraction, and what rounding leaves of
a number: it has the sign it had, unless it is so small that nothing is left. -/

set_option autoImplicit false

namespace BurstLoad.Decimal

open Float.Model (Format UnpackedFloat totalExponent)
open Float.Model.UnpackedFloat

theorem finite_eq {s : Sign} {m n : Nat} {e f : Int} {positive : 0 < m} {other : 0 < n}
    (mantissa : m = n) (exponent : e = f) :
    UnpackedFloat.finite s m e positive = .finite s n f other := by
  subst mantissa exponent
  rfl

/-! The fields of a packed number. -/

section

variable (s : Sign) {exponent : BitVec 11} {fraction : BitVec 52}

theorem ofBitVec_toBitVec : Sign.ofBitVec s.toBitVec = s := by
  cases s <;> rfl

theorem unpackSign_packed :
    unpackSign (packComponents .binary64 s exponent fraction) = s.toBitVec := by
  change (s.toBitVec ++ exponent ++ fraction).extractLsb' 63 1 = s.toBitVec
  rw [BitVec.extractLsb'_append_eq_of_le (by decide),
    BitVec.extractLsb'_append_eq_of_le (by decide)]
  cases s <;> rfl

/-- A number with its leading digit. -/
theorem unpack_normal (low : exponent ≠ 0#11) (high : exponent ≠ -1#11) :
    unpack .binary64 (packComponents .binary64 s exponent fraction) =
      .finite s (2 ^ 52 + fraction.toNat) (exponent.toNat - 1075) (by omega) := by
  unfold unpack
  simp only [unpackMantissa_packComponents, unpackExponent_packComponents]
  rw [if_neg high, if_neg low, unpackSign_packed, ofBitVec_toBitVec]
  apply finite_eq
  · have small := fraction.isLt
    rw [BitVec.toNat_append, ← Nat.shiftLeft_add_eq_or_of_lt small]
    rfl
  · rfl

/-- A number below all those with a leading digit. -/
theorem unpack_subnormal (nonzero : fraction ≠ 0#52) (positive : 0 < fraction.toNat) :
    unpack .binary64 (packComponents .binary64 s 0#11 fraction) =
      .finite s fraction.toNat (-1074) positive := by
  unfold unpack
  simp only [unpackMantissa_packComponents, unpackExponent_packComponents]
  rw [if_neg (by decide), if_pos trivial, dif_neg nonzero, unpackSign_packed, ofBitVec_toBitVec]
  exact finite_eq rfl rfl

theorem unpack_infinity : unpack .binary64 (packedInfinity .binary64 s) = .infinity s := by
  cases s <;> rfl

theorem unpack_zero : unpack .binary64 (packedZero .binary64 s) = .zero s := by
  cases s <;> rfl

end

/-! Packing a number and unpacking it again. -/

section

variable {s : Sign} {m : Nat} {e : Int} {positive : 0 < m}

theorem pack_normal (low : 2 ^ 52 ≤ m) (high : m < 2 ^ 53) (most : e ≤ 971) :
    pack .binary64 (.finite s m e positive) =
      packComponents .binary64 s (.ofNat 11 (e + 1075).toNat) (.ofNat 52 m) := by
  have digits : m.log2 = 52 := (Nat.log2_eq_iff (by omega)).mpr ⟨low, high⟩
  have bias : e + (Format.binary64.exponentBias : Int) + (52 : Nat) = e + 1075 := by
    change e + 1023 + 52 = e + 1075
    omega
  have fits : ¬2 ^ 11 ≤ (e + 1075).toNat + 1 := by omega
  simp only [pack, digits, bias]
  rw [if_neg fits, if_pos (show 52 + 1 = Format.binary64.mantissaBits from rfl)]

theorem unpack_pack_normal (low : 2 ^ 52 ≤ m) (high : m < 2 ^ 53) (least : -1074 ≤ e)
    (most : e ≤ 971) :
    unpack .binary64 (pack .binary64 (.finite s m e positive)) = .finite s m e positive := by
  have exponent : (BitVec.ofNat 11 (e + 1075).toNat).toNat = (e + 1075).toNat := by
    rw [BitVec.toNat_ofNat]
    omega
  have fraction : (BitVec.ofNat 52 m).toNat = m - 2 ^ 52 := by
    rw [BitVec.toNat_ofNat]
    omega
  rw [pack_normal low high most, unpack_normal]
  · apply finite_eq
    · omega
    · omega
  · intro zero
    rw [zero] at exponent
    simp at exponent
    omega
  · intro ones
    rw [ones] at exponent
    simp at exponent
    omega

/-- A number that is not zero, nor no number at all, with this sign. -/
def IsSigned (s : Sign) : UnpackedFloat → Prop
  | .infinity t | .finite t _ _ _ => t = s
  | .zero _ | .notANumber => False

/-- A number of at most 53 digits, and no power too small, keeps its sign when it is packed. -/
theorem isSigned_pack (high : m < 2 ^ 53) (least : -1074 ≤ e) :
    IsSigned s (unpack .binary64 (pack .binary64 (.finite s m e positive))) := by
  by_cases low : 2 ^ 52 ≤ m
  · by_cases most : e ≤ 971
    · rw [unpack_pack_normal low high least most]
      rfl
    · have beyond : 2 ^ 11 ≤ (e + (Format.binary64.exponentBias : Int) + (52 : Nat)).toNat + 1 := by
        change 2048 ≤ (e + 1023 + 52).toNat + 1
        omega
      simp only [pack]
      rw [if_pos beyond, unpack_infinity]
      rfl
  · have digits : m.log2 < 52 := (Nat.log2_lt (by omega)).mpr (by omega)
    have lacking : ¬m.log2 + 1 = Format.binary64.mantissaBits := by
      change ¬m.log2 + 1 = 53
      omega
    have fraction : (BitVec.ofNat 52 m).toNat = m := by
      rw [BitVec.toNat_ofNat]
      omega
    have nonzero : BitVec.ofNat 52 m ≠ 0#52 := by
      intro zero
      rw [zero] at fraction
      simp at fraction
      omega
    simp only [pack]
    rw [if_neg lacking]
    split
    · rw [unpack_infinity]
      rfl
    · rw [unpack_subnormal s nonzero (by omega)]
      rfl

end

/-! What rounding leaves. -/

/-- A mantissa that is shifted loses its last digits. -/
theorem mantissa_shiftRight (x : ExtendedMantissa) (k : Nat) :
    (x >>> k).mantissa = x.mantissa / 2 ^ k := by
  induction k with
  | zero => simp [HShiftRight.hShiftRight, Nat.repeat]
  | succ k ih =>
    change (x >>> k).mantissa / 2 = x.mantissa / 2 ^ (k + 1)
    rw [ih, Nat.div_div_eq_div_mul, Nat.pow_succ]

theorem mantissa_ofMantissaAndAccuracy (m : Nat) (accuracy : Accuracy) :
    (ExtendedMantissa.ofMantissaAndAccuracy m accuracy).mantissa = m := by
  unfold ExtendedMantissa.ofMantissaAndAccuracy
  split <;> rfl

theorem accuracy_ofMantissaAndAccuracy (m : Nat) (accuracy : Accuracy) :
    (ExtendedMantissa.ofMantissaAndAccuracy m accuracy).accuracy = accuracy := by
  unfold ExtendedMantissa.ofMantissaAndAccuracy
  split <;> rfl

theorem le_roundToNearestEven (m : Nat) (accuracy : Accuracy) :
    m ≤ accuracy.roundToNearestEven m := by
  unfold Accuracy.roundToNearestEven
  split <;> omega

/-- How far a number is shifted: until it has 53 digits, or the least power is reached. -/
def shiftOf (m : Nat) (e : Int) : Nat :=
  (max ((m.log2 : Int) - 52) (-1074 - e)).toNat

theorem shiftToTargetExponent_eq (m : Nat) (e : Int) (accuracy : Accuracy) :
    shiftToTargetExponent .binary64 m e accuracy =
      (ExtendedMantissa.ofMantissaAndAccuracy m accuracy >>> shiftOf m e, e + shiftOf m e) := by
  have shift : (Format.binary64.targetExponent (totalExponent m e) - e).toNat = shiftOf m e := by
    change (max ((m.log2 : Int) + 1 + e - 53) (-1074) - e).toNat = shiftOf m e
    unfold shiftOf
    omega
  simp only [shiftToTargetExponent, shiftToExponent, shift]

section

variable {m : Nat} {e : Int}

theorem least_shift : -1074 ≤ e + shiftOf m e := by
  unfold shiftOf
  omega

theorem div_shift_lt : m / 2 ^ shiftOf m e < 2 ^ 53 := by
  have digits := Nat.lt_log2_self (n := m)
  have longest : m.log2 + 1 ≤ 53 + shiftOf m e := by
    unfold shiftOf
    omega
  rw [Nat.div_lt_iff_lt_mul (Nat.two_pow_pos _), ← Nat.pow_add]
  exact Nat.lt_of_lt_of_le digits (Nat.pow_le_pow_right (by decide) longest)

/-- Above the least power a number is never shifted to nothing. -/
theorem div_shift_pos (positive : 0 < m) (least : -1074 ≤ e) : 0 < m / 2 ^ shiftOf m e := by
  have shortest : shiftOf m e ≤ m.log2 := by
    unfold shiftOf
    omega
  rw [Nat.div_pos_iff]
  refine ⟨Nat.two_pow_pos _, ?_⟩
  exact Nat.le_trans (Nat.pow_le_pow_right (by decide) shortest) (Nat.log2_self_le (by omega))

end

/-- The mantissa after the first shift, rounded. -/
def firstRounded (m : Nat) (e : Int) (accuracy : Accuracy) : Nat :=
  (ExtendedMantissa.ofMantissaAndAccuracy m accuracy >>> shiftOf m e).roundedMantissa

/-- Above the least power a number is rounded to nothing only if all its digits lie below the first. -/
theorem firstRounded_eq_zero_iff {m : Nat} {e : Int} {accuracy : Accuracy} (least : -1074 ≤ e) :
    firstRounded m e accuracy = 0 ↔ accuracy.roundToNearestEven m = 0 := by
  rcases Nat.eq_zero_or_pos m with rfl | positive
  · have still : shiftOf 0 e = 0 := by
      unfold shiftOf
      rw [Nat.log2_zero]
      omega
    have same : ExtendedMantissa.ofMantissaAndAccuracy 0 accuracy >>> 0 =
        ExtendedMantissa.ofMantissaAndAccuracy 0 accuracy := rfl
    rw [firstRounded, still, same, ExtendedMantissa.roundedMantissa, accuracy_ofMantissaAndAccuracy,
      mantissa_ofMantissaAndAccuracy]
  · have kept := div_shift_pos positive least
    have shifted := le_roundToNearestEven
      (ExtendedMantissa.ofMantissaAndAccuracy m accuracy >>> shiftOf m e).mantissa
      (ExtendedMantissa.ofMantissaAndAccuracy m accuracy >>> shiftOf m e).accuracy
    rw [mantissa_shiftRight, mantissa_ofMantissaAndAccuracy] at shifted
    have whole := le_roundToNearestEven m accuracy
    rw [firstRounded, ExtendedMantissa.roundedMantissa, mantissa_shiftRight,
      mantissa_ofMantissaAndAccuracy]
    omega

/-- What is rounded keeps its sign once it is packed, unless its mantissa is rounded to zero. -/
theorem unpack_pack_roundWithAccuracy (s : Sign) {m : Nat} {e : Int} {accuracy : Accuracy}
    (least : -1074 ≤ e) :
    let rounded := unpack .binary64 (pack .binary64 (roundWithAccuracy .binary64 s m e accuracy))
    if accuracy.roundToNearestEven m = 0 then rounded = .zero s else IsSigned s rounded := by
  have above : -1074 ≤ e + shiftOf m e := least_shift
  simp only [roundWithAccuracy, shiftToTargetExponent_eq, mantissa_shiftRight,
    mantissa_ofMantissaAndAccuracy]
  split
  · next nothing =>
    rw [← firstRounded_eq_zero_iff least, firstRounded] at nothing
    rw [dif_pos (by rw [nothing, Nat.zero_div])]
    exact unpack_zero s
  · next something =>
    rw [← firstRounded_eq_zero_iff least, firstRounded] at something
    have kept := div_shift_pos (Nat.pos_of_ne_zero something) above
    rw [dif_neg (by omega)]
    exact isSigned_pack div_shift_lt least_shift

end BurstLoad.Decimal
