import BurstLoad.Proofs.Payload
import Mathlib.Data.Int.ModEq

/-! The layout of a transaction, read in both directions. What is written is told by the size and by the
two integers modulo `2^32`, and a byte string with nothing but zeros behind its header is the transaction
of what the header says. -/

set_option autoImplicit false

namespace BurstLoad.Payload

variable {s : Bytes} {tag discriminator size : Int}

/-- From some place on there are only zeros. -/
def IsZeroFrom (place : Nat) (s : Bytes) : Prop :=
  ∀ i b, place ≤ i → s[i]? = some b → b = 0

theorem isZeroFrom_iff {place : Nat} :
    IsZeroFrom place s ↔ s.drop place = List.replicate (s.length - place) 0 := by
  rw [List.eq_replicate_iff, List.length_drop]
  constructor
  · intro zeros
    refine ⟨rfl, fun b member => ?_⟩
    obtain ⟨i, there⟩ := List.mem_iff_getElem?.mp member
    rw [List.getElem?_drop] at there
    exact zeros (place + i) b (Nat.le_add_right place i) there
  · rintro ⟨-, zeros⟩ i b behind there
    apply zeros b
    rw [List.mem_iff_getElem?]
    refine ⟨i - place, ?_⟩
    rw [List.getElem?_drop, Nat.add_sub_of_le behind, there]

theorem word_eq_iff_modEq {m n : Int} : word m = word n ↔ m ≡ n [ZMOD 2 ^ 32] :=
  word_eq_iff

/-! Writing. -/

theorem build?_of_le (enough : headerSize ≤ size) :
    build? tag discriminator size = .ok (build tag discriminator size.toNat) :=
  if_neg (Int.not_lt.mpr enough)

theorem isZeroFrom_build (tag discriminator : Int) {size : Nat} (enough : headerSize ≤ size) :
    IsZeroFrom headerSize (build tag discriminator size) := by
  rw [isZeroFrom_iff, drop_build, length_build _ _ enough]

/-! Reading. -/

theorem exists_header? (enough : headerSize ≤ s.length) : ∃ words, header? s = some words := by
  unfold headerSize at enough
  unfold header?
  cases first : Bytes.takeWord? s with
  | none =>
    have := Bytes.length_lt_of_takeWord?_eq_none first
    omega
  | some head =>
    obtain ⟨t, rest⟩ := head
    have long := Bytes.length_of_takeWord? first
    cases second : Bytes.takeWord? rest with
    | none =>
      have := Bytes.length_lt_of_takeWord?_eq_none second
      omega
    | some head => exact ⟨(t, head.1), by simp [second]⟩

/-- What a header says are two words, and they stand at the head as they would be written. -/
theorem eq_of_header? {t d : Nat} (header : header? s = some (t, d)) :
    s = Bytes.ofWord t ++ Bytes.ofWord d ++ s.drop headerSize ∧ word t = t ∧ word d = d := by
  have small {n : Nat} (short : n < Bytes.wordCount) : word n = n := by
    rw [word_eq_toNat (Int.natCast_nonneg n) (Int.ofNat_le.mpr (Bytes.lt_wordCount_iff.mp short)),
      Int.toNat_natCast]
  simp only [header?, Option.bind_eq_bind, Option.bind_eq_some_iff, Option.pure_def,
    Option.some.injEq, Prod.mk.injEq, Prod.exists] at header
  obtain ⟨_, rest, first, _, behind, second, rfl, rfl⟩ := header
  obtain ⟨same, short⟩ := Bytes.eq_of_takeWord? first
  obtain ⟨rfl, short'⟩ := Bytes.eq_of_takeWord? second
  subst same
  exact ⟨by rw [← List.append_assoc]; rfl, small short, small short'⟩

theorem eq_build_of_header? {t d : Nat} (header : header? s = some (t, d))
    (zeros : IsZeroFrom headerSize s) : s = build t d s.length := by
  obtain ⟨same, tagWord, discriminatorWord⟩ := eq_of_header? header
  rw [build, tagWord, discriminatorWord, ← isZeroFrom_iff.mp zeros]
  exact same

/-- How the transactions of one size are written and read. -/
structure IsCodec (size : Int) : Prop where
  /-- Whatever the integers are, they are written, and the header gives them modulo `2^32`. -/
  written : ∀ tag discriminator : Int, ∃ s t d, build? tag discriminator size = .ok s ∧
    (s.length : Int) = size ∧ header? s = some (t, d) ∧ (t : Int) = tag % 2 ^ 32 ∧
    (d : Int) = discriminator % 2 ^ 32 ∧ IsZeroFrom headerSize s
  same_iff : ∀ tag discriminator tag' discriminator' size' : Int, headerSize ≤ size' →
    (build? tag discriminator size = build? tag' discriminator' size' ↔
      size = size' ∧ tag ≡ tag' [ZMOD 2 ^ 32] ∧ discriminator ≡ discriminator' [ZMOD 2 ^ 32])
  /-- A string of this size without anything behind its header is what is written for the header. -/
  rewritten : ∀ s : Bytes, (s.length : Int) = size → IsZeroFrom headerSize s →
    ∃ t d : Nat, header? s = some (t, d) ∧ build? t d s.length = .ok s

theorem isCodec_of_headerSize_le (enough : headerSize ≤ size) : IsCodec size where
  written tag discriminator := by
    have room : headerSize ≤ size.toNat := by omega
    refine ⟨_, _, _, build?_of_le enough, ?_, header?_build _ _ _, word_cast tag,
      word_cast discriminator, isZeroFrom_build _ _ room⟩
    rw [length_build _ _ room]
    omega
  same_iff tag discriminator tag' discriminator' size' enough' := by
    have sizes : size.toNat = size'.toNat ↔ size = size' := by omega
    rw [build?_of_le enough, build?_of_le enough', Except.ok.injEq,
      build_eq_build_iff (by omega) (by omega), sizes, word_eq_iff_modEq, word_eq_iff_modEq]
  rewritten s length zeros := by
    rw [← length] at enough
    obtain ⟨⟨t, d⟩, header⟩ := exists_header? (Int.ofNat_le.mp enough)
    refine ⟨t, d, header, ?_⟩
    rw [build?_of_le enough, Int.toNat_natCast, ← eq_build_of_header? header zeros]

/-- Integers that are negative or too wide for a word, in ten bytes. -/
theorem isCodec_ten :
    headerSize ≤ (10 : Int) ∧ IsCodec 10 ∧
      build? (-1) (2 ^ 32 + 5) 10 = .ok [255, 255, 255, 255, 0, 0, 0, 5, 0, 0] :=
  ⟨by decide, isCodec_of_headerSize_le (by decide), rfl⟩

end BurstLoad.Payload
