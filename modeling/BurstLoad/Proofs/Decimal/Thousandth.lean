import BurstLoad.Proofs.Decimal.Packed

/-! A thousandth of a floating-point number, which turns milliseconds to seconds. It has the sign of the
number, but a number that is too close to zero has none: its thousandth rounds to zero. -/

set_option autoImplicit false

namespace BurstLoad.Decimal

open Float.Model (Format UnpackedFloat totalExponent)
open Float.Model.UnpackedFloat

/-- A number as its sign, its mantissa and its power. -/
def unpacked (x : Float) : UnpackedFloat :=
  x.toModel.unpack

theorem unpacked_thousand :
    unpacked 1000.0 = .finite .positive (1000 * 2 ^ 43) (-43) (by decide) :=
  rfl

theorem unpacked_div (x y : Float) :
    unpacked (x / y) =
      unpack .binary64 (pack .binary64 (UnpackedFloat.div .binary64 (unpacked x) (unpacked y))) :=
  rfl

/-- A finite number has 53 digits, or it has the least power and no leading digit. -/
theorem digits_of_unpack {b : BitVec Format.binary64.numBits} {s : Sign} {m : Nat} {e : Int} {positive : 0 < m}
    (finite : unpack .binary64 b = .finite s m e positive) :
    m < 2 ^ 53 ∧ -1074 ≤ e ∧ (e ≠ -1074 → 2 ^ 52 ≤ m) := by
  have small : (unpackMantissa b).toNat < 2 ^ 52 := (unpackMantissa b).isLt
  unfold unpack at finite
  dsimp only at finite
  split at finite
  · split at finite <;> cases finite
  · split at finite
    · split at finite
      · cases finite
      · next least _ =>
        cases finite
        rw [least]
        exact ⟨by omega, by decide, fun other => absurd rfl other⟩
    · next low =>
      cases finite
      have first : (unpackExponent b).toNat ≠ 0 := fun zero => low (BitVec.eq_of_toNat_eq zero)
      rw [BitVec.toNat_append, ← Nat.shiftLeft_add_eq_or_of_lt small]
      change 2 ^ 52 + (unpackMantissa b).toNat < 2 ^ 53 ∧
        -1074 ≤ ((unpackExponent b).toNat : Int) - 1075 ∧
        (((unpackExponent b).toNat : Int) - 1075 ≠ -1074 → 2 ^ 52 ≤ 2 ^ 52 + (unpackMantissa b).toNat)
      omega

/-- Rounding leaves nothing exactly of what is at most half of the last place. -/
theorem roundToNearestEven_eq_zero_iff {n d : Nat} (positive : 0 < d) :
    (accuracyOfFraction (n % d) d).roundToNearestEven (n / d) = 0 ↔ 2 * n ≤ d := by
  have split := Nat.div_add_mod n d
  have rest := Nat.mod_lt n positive
  rcases Nat.eq_zero_or_pos (n / d) with none | some
  · rw [none, Nat.mul_zero, Nat.zero_add] at split
    rw [none, split]
    unfold accuracyOfFraction
    by_cases zero : n = 0
    · simp [zero, Accuracy.roundToNearestEven]
    · rw [if_neg zero]
      rcases Nat.lt_trichotomy (2 * n) d with less | equal | more
      · rw [Nat.compare_eq_lt.mpr less]
        simp [Accuracy.roundToNearestEven]
        omega
      · rw [Nat.compare_eq_eq.mpr equal]
        simp [Accuracy.roundToNearestEven]
        omega
      · rw [Nat.compare_eq_gt.mpr more]
        simp [Accuracy.roundToNearestEven]
        omega
  · have whole := le_roundToNearestEven (n / d) (accuracyOfFraction (n % d) d)
    have least : d ≤ d * (n / d) := Nat.le_mul_of_pos_right d some
    omega

/-- The power of the last place of a quotient by a thousand. -/
def quotientPower (m : Nat) (e : Int) : Int :=
  min (e + 43) (max ((m.log2 : Int) + e - 62) (-1074))

/-- How many digits a mantissa is given before it is divided by a thousand. -/
def quotientShift (m : Nat) (e : Int) : Nat :=
  (e + 43 - quotientPower m e).toNat

theorem div_thousand (s : Sign) {m : Nat} {e : Int} {positive : 0 < m} {other : 0 < 1000 * 2 ^ 43} :
    UnpackedFloat.div .binary64 (.finite s m e positive) (.finite .positive (1000 * 2 ^ 43) (-43) other) =
      roundWithAccuracy .binary64 s (m * 2 ^ quotientShift m e / (1000 * 2 ^ 43)) (quotientPower m e)
        (accuracyOfFraction (m * 2 ^ quotientShift m e % (1000 * 2 ^ 43)) (1000 * 2 ^ 43)) := by
  have sign : s / .positive = s := by
    cases s <;> rfl
  have power : min (e - -43) (Format.binary64.targetExponent
      (totalExponent m e - totalExponent (1000 * 2 ^ 43) (-43))) = quotientPower m e := by
    have ten : totalExponent (1000 * 2 ^ 43) (-43) = 10 := by
      decide
    rw [ten]
    change min (e - -43) (max ((m.log2 : Int) + 1 + e - 10 - 53) (-1074)) = _
    unfold quotientPower
    omega
  have shift : (e - -43 - quotientPower m e).toNat = quotientShift m e := by
    unfold quotientShift
    omega
  simp only [UnpackedFloat.div, divCore, sign, power, shift, Nat.shiftLeft_eq]

/-- The thousandth of a finite number is zero exactly if it is at most half of the least number. -/
theorem unpacked_thousandth {x : Float} {s : Sign} {m : Nat} {e : Int} {positive : 0 < m}
    (finite : unpacked x = .finite s m e positive) :
    if e = -1074 ∧ m ≤ 500 then unpacked (x / 1000.0) = .zero s
    else IsSigned s (unpacked (x / 1000.0)) := by
  obtain ⟨most, least, leading⟩ := digits_of_unpack finite
  have digits : m.log2 ≤ 52 := Nat.lt_succ_iff.mp ((Nat.log2_lt (by omega)).mpr most)
  have above : -1074 ≤ quotientPower m e := by
    unfold quotientPower
    omega
  have faint : 2 * (m * 2 ^ quotientShift m e) ≤ 1000 * 2 ^ 43 ↔ e = -1074 ∧ m ≤ 500 := by
    by_cases deep : e = -1074
    · have shift : quotientShift m e = 43 := by
        unfold quotientShift quotientPower
        omega
      rw [shift]
      omega
    · have shift : 43 ≤ quotientShift m e := by
        unfold quotientShift quotientPower
        omega
      have large : 2 ^ 52 * 2 ^ 43 ≤ m * 2 ^ quotientShift m e :=
        Nat.mul_le_mul (leading deep) (Nat.pow_le_pow_right (by decide) shift)
      omega
  rw [unpacked_div, finite, unpacked_thousand, div_thousand]
  simp only [← faint, ← roundToNearestEven_eq_zero_iff (show 0 < 1000 * 2 ^ 43 by decide)]
  exact unpack_pack_roundWithAccuracy s above

section

variable {x : Float} {s : Sign}

theorem unpacked_thousandth_of_infinity (infinite : unpacked x = .infinity s) :
    unpacked (x / 1000.0) = .infinity s := by
  rw [unpacked_div, infinite]
  cases s <;> rfl

theorem unpacked_thousandth_of_zero (zero : unpacked x = .zero s) :
    unpacked (x / 1000.0) = .zero s := by
  rw [unpacked_div, zero]
  cases s <;> rfl

theorem unpacked_thousandth_of_notANumber (none : unpacked x = .notANumber) :
    unpacked (x / 1000.0) = .notANumber := by
  rw [unpacked_div, none]
  rfl

end

/-! Comparisons. -/

theorem lt_iff {x y : Float} : x < y ↔ (unpacked x).compare (unpacked y) = some .lt := by
  change decide (UnpackedFloat.lt (unpacked x) (unpacked y) = true) = true ↔ _
  rw [decide_eq_true_iff, UnpackedFloat.lt, beq_iff_eq]

theorem le_iff {x y : Float} :
    x ≤ y ↔ ((unpacked x).compare (unpacked y)).any (·.isLE) = true := by
  change decide (UnpackedFloat.le (unpacked x) (unpacked y) = true) = true ↔ _
  rw [decide_eq_true_iff, UnpackedFloat.le]

theorem pos_iff {x : Float} : 0 < x ↔ IsSigned .positive (unpacked x) := by
  rw [lt_iff]
  change UnpackedFloat.compare (.zero .positive) (unpacked x) = some .lt ↔ _
  cases unpacked x with
  | infinity s | finite s m e positive => cases s <;> simp [UnpackedFloat.compare, IsSigned]
  | zero s | notANumber => simp [UnpackedFloat.compare, IsSigned]

theorem nonneg_iff {x : Float} :
    0 ≤ x ↔ IsSigned .positive (unpacked x) ∨ ∃ s, unpacked x = .zero s := by
  rw [le_iff]
  change (UnpackedFloat.compare (.zero .positive) (unpacked x)).any (·.isLE) = true ↔ _
  cases unpacked x with
  | infinity s | finite s m e positive => cases s <;> simp [UnpackedFloat.compare, IsSigned]
  | zero s | notANumber => simp [UnpackedFloat.compare, IsSigned]

theorem nonneg_of_pos {x : Float} (positive : 0 < x) : 0 ≤ x :=
  nonneg_iff.mpr (.inl (pos_iff.mp positive))

theorem not_isSigned {s t : Sign} {v : UnpackedFloat} (signed : IsSigned s v) (other : s ≠ t) :
    ¬IsSigned t v := by
  cases v with
  | infinity u | finite u m e positive =>
    intro again
    exact other (signed.symm.trans again)
  | zero u | notANumber => exact signed.elim

/-- The greatest number whose thousandth rounds to zero. -/
def faintest : Float :=
  .ofBits 500

theorem unpacked_faintest : unpacked faintest = .finite .positive 500 (-1074) (by decide) :=
  rfl

theorem faintest_lt_finite_iff {m : Nat} {e : Int} {positive : 0 < m} (least : -1074 ≤ e) :
    UnpackedFloat.compare (.finite .positive 500 (-1074) (by decide))
      (.finite .positive m e positive) = some .lt ↔ ¬(e = -1074 ∧ m ≤ 500) := by
  simp only [UnpackedFloat.compare, Option.some.injEq, Ordering.then_eq_lt, Int.compare_eq_lt,
    Int.compare_eq_eq, Nat.compare_eq_lt]
  omega

/-- A thousandth is above zero exactly for the numbers that are not too close to zero. -/
theorem thousandth_pos_iff {x : Float} : 0 < x / 1000.0 ↔ faintest < x := by
  rw [pos_iff, lt_iff, unpacked_faintest]
  cases shape : unpacked x with
  | notANumber => simp [unpacked_thousandth_of_notANumber shape, UnpackedFloat.compare, IsSigned]
  | infinity s =>
    rw [unpacked_thousandth_of_infinity shape]
    cases s <;> simp [UnpackedFloat.compare, IsSigned]
  | zero s => simp [unpacked_thousandth_of_zero shape, UnpackedFloat.compare, IsSigned]
  | finite s m e positive =>
    obtain ⟨-, least, -⟩ := digits_of_unpack shape
    have rounded := unpacked_thousandth shape
    cases s with
    | negative =>
      refine iff_of_false ?_ (by simp [UnpackedFloat.compare])
      split at rounded
      · simp [rounded, IsSigned]
      · exact not_isSigned rounded nofun
    | positive =>
      rw [faintest_lt_finite_iff least]
      split at rounded
      · next faint => simp [rounded, IsSigned, faint]
      · next seen => exact iff_of_true rounded seen

theorem thousandth_nonneg {x : Float} (nonneg : 0 ≤ x) : 0 ≤ x / 1000.0 := by
  rw [nonneg_iff] at nonneg ⊢
  rcases nonneg with signed | ⟨s, zero⟩
  · cases shape : unpacked x with
    | notANumber | zero s =>
      rw [shape] at signed
      exact signed.elim
    | infinity s =>
      rw [shape] at signed
      rw [unpacked_thousandth_of_infinity shape]
      exact .inl signed
    | finite s m e positive =>
      rw [shape] at signed
      cases signed
      have rounded := unpacked_thousandth shape
      split at rounded
      · exact .inr ⟨_, rounded⟩
      · exact .inl rounded
  · exact .inr ⟨s, unpacked_thousandth_of_zero zero⟩

/-- A number is below zero, or at least zero, or no number at all. -/
theorem unpacked_eq_notANumber {x : Float} (notBelow : ¬x < 0) (notAbove : ¬0 ≤ x) :
    unpacked x = .notANumber := by
  rw [nonneg_iff] at notAbove
  rw [lt_iff] at notBelow
  change ¬(unpacked x).compare (.zero .positive) = some .lt at notBelow
  cases shape : unpacked x with
  | notANumber => rfl
  | zero s => exact absurd (.inr ⟨s, shape⟩) notAbove
  | infinity s | finite s m e positive =>
    rw [shape] at notBelow notAbove
    cases s with
    | negative => exact absurd rfl notBelow
    | positive => exact absurd (.inl rfl) notAbove

/-- What is no number has a thousandth that is none either. -/
theorem thousandth_nonneg_iff {x : Float} (notBelow : ¬x < 0) : 0 ≤ x / 1000.0 ↔ 0 ≤ x := by
  refine ⟨?_, thousandth_nonneg⟩
  intro nonneg
  apply Classical.byContradiction
  intro notAbove
  have none := unpacked_eq_notANumber notBelow notAbove
  rw [nonneg_iff, unpacked_thousandth_of_notANumber none] at nonneg
  simp [IsSigned] at nonneg

end BurstLoad.Decimal
