/-!
Byte strings, and words of four bytes with the highest byte first. Reading a written word gives
its value modulo `2^32`.
-/

set_option autoImplicit false

namespace BurstLoad

abbrev Bytes := List UInt8

namespace Bytes

def wordCount : Nat := 4294967296

def maxWord : Nat := 4294967295

/-- The four bytes of a number modulo `2^32`. -/
def ofWord (n : Nat) : Bytes :=
  [UInt8.ofNat (n / 16777216), UInt8.ofNat (n / 65536), UInt8.ofNat (n / 256), UInt8.ofNat n]

def wordOf (a b c d : UInt8) : Nat :=
  a.toNat * 16777216 + b.toNat * 65536 + c.toNat * 256 + d.toNat

/-- The word at the head, and the bytes after it. -/
def takeWord? : Bytes → Option (Nat × Bytes)
  | a :: b :: c :: d :: rest => some (wordOf a b c d, rest)
  | _ => none

theorem lt_wordCount_iff {n : Nat} : n < wordCount ↔ n ≤ maxWord :=
  Nat.lt_succ_iff

theorem length_ofWord (n : Nat) : (ofWord n).length = 4 := rfl

theorem takeWord?_ofWord_append (n : Nat) (rest : Bytes) :
    takeWord? (ofWord n ++ rest) = some (n % wordCount, rest) := by
  simp only [ofWord, List.cons_append, List.nil_append, takeWord?, wordOf, UInt8.toNat_ofNat',
    Option.some.injEq, Prod.mk.injEq, and_true, wordCount]
  omega

theorem wordOf_lt (a b c d : UInt8) : wordOf a b c d < wordCount := by
  have := a.toNat_lt
  have := b.toNat_lt
  have := c.toNat_lt
  have := d.toNat_lt
  unfold wordOf wordCount
  omega

/-- Four bytes are those of the number that they write. -/
theorem ofWord_wordOf (a b c d : UInt8) : ofWord (wordOf a b c d) = [a, b, c, d] := by
  have := a.toNat_lt
  have := b.toNat_lt
  have := c.toNat_lt
  have := d.toNat_lt
  unfold ofWord wordOf
  simp only [List.cons.injEq, and_true, ← UInt8.toNat_inj, UInt8.toNat_ofNat']
  omega

theorem takeWord?_eq_none {s : Bytes} (h : s.length < 4) : takeWord? s = none := by
  match s, h with
  | [], _ => rfl
  | [_], _ => rfl
  | [_, _], _ => rfl
  | [_, _, _], _ => rfl

theorem length_of_takeWord? {s rest : Bytes} {n : Nat} (h : takeWord? s = some (n, rest)) :
    s.length = rest.length + 4 := by
  match s, h with
  | a :: b :: c :: d :: r, h =>
    simp only [takeWord?, Option.some.injEq, Prod.mk.injEq] at h
    simp [h.2]

/-- Reading a word takes it off as it would be written. -/
theorem eq_of_takeWord? {s rest : Bytes} {n : Nat} (h : takeWord? s = some (n, rest)) :
    s = ofWord n ++ rest ∧ n < wordCount := by
  match s, h with
  | a :: b :: c :: d :: r, h =>
    simp only [takeWord?, Option.some.injEq, Prod.mk.injEq] at h
    obtain ⟨rfl, rfl⟩ := h
    exact ⟨by rw [ofWord_wordOf]; rfl, wordOf_lt a b c d⟩

theorem ofWord_append_inj {m n : Nat} {s t : Bytes} (mShort : m < wordCount) (nShort : n < wordCount)
    (same : ofWord m ++ s = ofWord n ++ t) : m = n ∧ s = t := by
  have words := congrArg takeWord? same
  rw [takeWord?_ofWord_append, takeWord?_ofWord_append, Nat.mod_eq_of_lt mShort,
    Nat.mod_eq_of_lt nShort] at words
  exact Prod.mk.inj (Option.some.inj words)

theorem length_lt_of_takeWord?_eq_none {s : Bytes} (h : takeWord? s = none) : s.length < 4 := by
  match s, h with
  | [], _ | [_], _ | [_, _], _ | [_, _, _], _ => simp

end Bytes

end BurstLoad
