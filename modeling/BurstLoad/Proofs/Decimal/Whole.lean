import BurstLoad.Proofs.Decimal.Thousandth

/-! Whole numbers as floating-point numbers: which of them have one, and what it is. -/

set_option autoImplicit false

namespace BurstLoad.Decimal

open Float.Model (Format UnpackedFloat)
open Float.Model.UnpackedFloat

/-! Rounding to 53 digits. -/

section

variable {n : Nat}

/-- The number of digits that are rounded away. -/
def cutOf (n : Nat) : Nat :=
  n.log2 + 1 - 53

theorem roundTo53_eq (n : Nat) :
    roundTo53 n = (if 2 * (n % 2 ^ cutOf n) > 2 ^ cutOf n ∨
      2 * (n % 2 ^ cutOf n) = 2 ^ cutOf n ∧ n / 2 ^ cutOf n % 2 = 1
      then n / 2 ^ cutOf n + 1 else n / 2 ^ cutOf n) * 2 ^ cutOf n := by
  simp only [roundTo53, cutOf, Nat.pow_eq, Bool.or_eq_true, decide_eq_true_eq, Bool.and_eq_true,
    beq_iff_eq]
  congr

/-- A number of at most 53 digits is left as it is. -/
theorem roundTo53_of_lt (small : n < 2 ^ 53) : roundTo53 n = n := by
  have none : cutOf n = 0 := by
    unfold cutOf
    rcases Nat.eq_zero_or_pos n with rfl | positive
    · rfl
    · have digits := (Nat.log2_lt (by omega)).mpr small
      omega
  rw [roundTo53_eq, none]
  simp [Nat.mod_one]

theorem lt_cut (n : Nat) : n < 2 ^ 53 * 2 ^ cutOf n := by
  have digits := Nat.lt_log2_self (n := n)
  rw [← Nat.pow_add]
  refine Nat.lt_of_lt_of_le digits (Nat.pow_le_pow_right (by decide) ?_)
  unfold cutOf
  omega

theorem div_cut_lt (n : Nat) : n / 2 ^ cutOf n < 2 ^ 53 := by
  rw [Nat.div_lt_iff_lt_mul (Nat.two_pow_pos _)]
  exact lt_cut n

theorem le_div_cut (large : 2 ^ 52 ≤ n) : 2 ^ 52 ≤ n / 2 ^ cutOf n := by
  have digits : 52 ≤ n.log2 := (Nat.le_log2 (by omega)).mpr large
  rw [Nat.le_div_iff_mul_le (Nat.two_pow_pos _), ← Nat.pow_add]
  refine Nat.le_trans (Nat.pow_le_pow_right (by decide) ?_) (Nat.log2_self_le (by omega))
  unfold cutOf
  omega

theorem roundTo53_pos (positive : 0 < n) : 0 < roundTo53 n := by
  rcases Nat.lt_or_ge n (2 ^ 53) with small | large
  · rwa [roundTo53_of_lt small]
  · have below := le_div_cut (n := n) (by omega)
    rw [roundTo53_eq]
    apply Nat.mul_pos _ (Nat.two_pow_pos _)
    split <;> omega

/-- Rounding carries over to one digit more only from the middle of the last step. -/
theorem carry_iff {below rest half : Nat} (short : below < 2 ^ 53) (inside : rest < 2 * half) :
    (if 2 * rest > 2 * half ∨ 2 * rest = 2 * half ∧ below % 2 = 1 then below + 1 else below) *
        (2 * half) < 2 ^ 53 * (2 * half) ↔
      2 * half * below + rest < 2 ^ 53 * (2 * half) - half := by
  rw [Nat.mul_lt_mul_right (by omega)]
  by_cases last : below = 2 ^ 53 - 1
  · subst last
    split <;> omega
  · have product : 2 * half * below ≤ 2 * half * (2 ^ 53 - 2) :=
      Nat.mul_le_mul_left _ (by omega)
    split <;> omega

theorem roundTo53_le (n : Nat) : roundTo53 n ≤ 2 ^ 53 * 2 ^ cutOf n := by
  have high := div_cut_lt n
  rw [roundTo53_eq]
  apply Nat.mul_le_mul_right
  split <;> omega

theorem le_roundTo53 (large : 2 ^ 52 ≤ n) : 2 ^ 52 * 2 ^ cutOf n ≤ roundTo53 n := by
  have low := le_div_cut large
  rw [roundTo53_eq]
  apply Nat.mul_le_mul_right
  split <;> omega

theorem cut_le (some : 0 < cutOf n) : 2 ^ 52 * 2 ^ cutOf n ≤ n := by
  unfold cutOf at some ⊢
  rw [← Nat.pow_add]
  refine Nat.le_trans (Nat.pow_le_pow_right (by decide) ?_) (Nat.log2_self_le ?_)
  · omega
  · rintro rfl
    simp at some

/-- A power of two less another one. -/
def below (e k : Nat) : Nat :=
  2 ^ e - 2 ^ k

/-- A power of two is also reached by rounding, from half a last place below it on. -/
theorem roundTo53_lt_iff {e k : Nat} (place : e = 53 + (k + 1)) :
    roundTo53 n < Nat.pow 2 e ↔ n < below e k := by
  subst place
  have half := Nat.two_pow_pos k
  rw [below, Nat.pow_eq, Nat.pow_add, Nat.pow_succ' (n := k)]
  rcases Nat.lt_trichotomy (cutOf n) (k + 1) with less | equal | more
  · have step : 2 ^ cutOf n ≤ 2 ^ k := Nat.pow_le_pow_right (by decide) (by omega)
    have rounded := roundTo53_le n
    have least := lt_cut n
    omega
  · have step : 2 ^ cutOf n = 2 * 2 ^ k := by
      rw [equal, Nat.pow_succ']
    have short := div_cut_lt n
    have inside := Nat.mod_lt n (Nat.two_pow_pos (cutOf n))
    have whole := Nat.div_add_mod n (2 ^ cutOf n)
    rw [roundTo53_eq]
    rw [step] at short inside whole ⊢
    rw [carry_iff short inside, whole]
  · have step : 2 * (2 * 2 ^ k) ≤ 2 ^ cutOf n := by
      rw [← Nat.pow_succ', ← Nat.pow_succ']
      exact Nat.pow_le_pow_right (by decide) more
    have least := cut_le (n := n) (by omega)
    have rounded := le_roundTo53 (n := n)
      (Nat.le_trans (Nat.le_mul_of_pos_right _ (Nat.two_pow_pos _)) least)
    omega

end

/-! The number that a whole number becomes. -/

/-- The first whole number that is too great for a floating-point number. It has hundreds of digits,
which no comparison is to write out. -/
@[irreducible]
def tooGreat : Nat :=
  below 1024 970

theorem roundTo53_lt_beyond_iff (n : Nat) : roundTo53 n < Nat.pow 2 1024 ↔ n < tooGreat := by
  unfold tooGreat
  apply roundTo53_lt_iff
  decide

theorem lt_pow_of_lt {n k : Nat} (small : n < 2 ^ 53) (enough : 53 ≤ k) : n < Nat.pow 2 k :=
  Nat.lt_of_lt_of_le small (Nat.pow_le_pow_right (by decide) enough)

theorem lt_tooGreat_of_lt {n : Nat} (small : n < 2 ^ 53) : n < tooGreat := by
  rw [← roundTo53_lt_beyond_iff, roundTo53_of_lt small]
  apply lt_pow_of_lt small
  decide

theorem tooGreat_le : tooGreat ≤ Nat.pow 10 400 := by
  unfold tooGreat below
  decide +kernel

/-- The bits of a packed number, one field above the other. -/
theorem packed_eq_ofNat {exponent fraction : Nat} (high : exponent < 2 ^ 11)
    (low : fraction < 2 ^ 52) :
    packComponents .binary64 .positive (.ofNat 11 exponent) (.ofNat 52 fraction) =
      BitVec.ofNat 64 (exponent * 2 ^ 52 + fraction) := by
  apply BitVec.eq_of_toNat_eq
  change ((0#1 ++ BitVec.ofNat 11 exponent) ++ BitVec.ofNat 52 fraction).toNat =
    (BitVec.ofNat 64 (exponent * 2 ^ 52 + fraction)).toNat
  rw [BitVec.toNat_append, BitVec.toNat_append, BitVec.toNat_ofNat, BitVec.toNat_ofNat,
    BitVec.toNat_ofNat, BitVec.toNat_ofNat, Nat.mod_eq_of_lt high, Nat.mod_eq_of_lt low,
    ← Nat.shiftLeft_add_eq_or_of_lt low, ← Nat.shiftLeft_add_eq_or_of_lt high]
  simp [Nat.shiftLeft_eq]
  omega

/-- A whole number from one on has a power far from the least one. -/
theorem unpacked_ofWhole {m : Nat} (positive : 0 < m) (range : m.log2 < 1024) :
    ∃ (mantissa : Nat) (first : 0 < mantissa), unpacked (Binary.ofWhole false m).toFloat =
      .finite .positive mantissa (m.log2 - 52) first := by
  -- The mantissa, filled up to 53 digits.
  have least : 2 ^ 52 ≤ m * 2 ^ 52 / 2 ^ m.log2 := by
    rw [Nat.le_div_iff_mul_le (Nat.two_pow_pos _), Nat.mul_comm]
    exact Nat.mul_le_mul_right _ (Nat.log2_self_le (by omega))
  have most : m * 2 ^ 52 / 2 ^ m.log2 < 2 ^ 53 := by
    have digits := Nat.lt_log2_self (n := m)
    rw [Nat.div_lt_iff_lt_mul (Nat.two_pow_pos _)]
    rw [Nat.pow_succ] at digits
    omega
  have bits : (Binary.ofWhole false m).toFloat =
      .ofBits (.ofNat ((m.log2 + 1023) * 2 ^ 52 + (m * 2 ^ 52 / 2 ^ m.log2 - 2 ^ 52))) := by
    have nonzero : (m == 0) = false := beq_false_of_ne (by omega)
    simp [Binary.toFloat, Binary.ofWhole, Binary.leading, nonzero]
  generalize m * 2 ^ 52 / 2 ^ m.log2 = mantissa at least most bits
  have exponent : (BitVec.ofNat 11 (m.log2 + 1023)).toNat = m.log2 + 1023 := by
    rw [BitVec.toNat_ofNat]
    omega
  have fraction : (BitVec.ofNat 52 (mantissa - 2 ^ 52)).toNat = mantissa - 2 ^ 52 := by
    rw [BitVec.toNat_ofNat]
    omega
  refine ⟨mantissa, by omega, ?_⟩
  rw [bits]
  change unpack .binary64 (pack .binary64 (unpack .binary64
    (BitVec.ofNat 64 ((m.log2 + 1023) * 2 ^ 52 + (mantissa - 2 ^ 52))))) = _
  rw [← packed_eq_ofNat (by omega) (by omega), unpack_normal, unpack_pack_normal]
  · apply finite_eq
    · omega
    · omega
  · omega
  · omega
  · omega
  · omega
  · intro zero
    rw [zero] at exponent
    simp at exponent
  · intro ones
    rw [ones] at exponent
    simp at exponent
    omega

/-- A whole number has a floating-point number exactly if it is not too great for it. -/
theorem ofInt?_eq_none_iff (n : Int) : ofInt? n = none ↔ tooGreat ≤ n.natAbs := by
  unfold ofInt?
  dsimp only
  split
  · next inside =>
    have range := (roundTo53_lt_beyond_iff n.natAbs).mp inside
    simp [Nat.not_le.mpr range]
  · next beyond =>
    rw [roundTo53_lt_beyond_iff] at beyond
    exact iff_of_true rfl (Nat.not_lt.mp beyond)

theorem log2_lt_of_lt {m k : Nat} (positive : 0 < m) (range : m < Nat.pow 2 k) : m.log2 < k :=
  (Nat.log2_lt (by omega)).mpr range

section

variable {n : Int} {x : Float}

theorem eq_of_ofInt? (read : ofInt? n = some x) :
    roundTo53 n.natAbs < Nat.pow 2 1024 ∧
      x = (Binary.ofWhole (n < 0) (roundTo53 n.natAbs)).toFloat := by
  unfold ofInt? at read
  dsimp only at read
  split at read
  · next inside =>
    cases read
    exact ⟨inside, rfl⟩
  · cases read

/-- A positive whole number is far from the numbers that are too close to zero. -/
theorem faintest_lt_of_ofInt? (read : ofInt? n = some x) (positive : 0 < n) : faintest < x := by
  obtain ⟨range, rfl⟩ := eq_of_ofInt? read
  have rounded := roundTo53_pos (n := n.natAbs) (by omega)
  have digits := log2_lt_of_lt rounded range
  obtain ⟨mantissa, first, whole⟩ := unpacked_ofWhole rounded digits
  have plain : decide (n < 0) = false := decide_eq_false (by omega)
  rw [plain, lt_iff, whole, unpacked_faintest, faintest_lt_finite_iff (by omega)]
  omega

theorem thousandth_nonneg_of_ofInt? (read : ofInt? n = some x) (nonneg : 0 ≤ n) :
    0 ≤ x / 1000.0 := by
  rcases Int.lt_or_eq_of_le nonneg with positive | rfl
  · exact nonneg_of_pos (thousandth_pos_iff.mpr (faintest_lt_of_ofInt? read positive))
  · obtain ⟨-, rfl⟩ := eq_of_ofInt? read
    exact thousandth_nonneg (nonneg_iff.mpr (.inr ⟨.positive, rfl⟩))

end

end BurstLoad.Decimal
