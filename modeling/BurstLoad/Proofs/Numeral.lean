import BurstLoad.Text.Numeral

/-! Integer texts: which texts read as a number, and as which one. A digit is never a blank nor a plus
sign, so that a text has one part of digits only. -/

set_option autoImplicit false

namespace BurstLoad.Text

variable {c : Char} {s before after : List Char} {n : Nat}

/-! Blanks around a text. -/

/-- A text without blanks at its ends is trimmed already. -/
theorem trim_eq_self (first : ∀ c ∈ s.head?, isBlank c = false)
    (last : ∀ c ∈ s.getLast?, isBlank c = false) : trim s = s := by
  have front : trimLeft s = s := by
    cases s with
    | nil => rfl
    | cons c rest => exact trimLeft_cons_of_not_blank (first c rfl)
  have back : s.reverse.dropWhile isBlank = s.reverse := by
    rw [← List.head?_reverse] at last
    cases mirrored : s.reverse with
    | nil => rfl
    | cons c rest =>
      rw [mirrored] at last
      exact trimLeft_cons_of_not_blank (last c rfl)
  rw [trim, front, trimRight, back, List.reverse_reverse]

theorem trimRight_append (blank : ∀ c ∈ after, isBlank c = true) (s : List Char) :
    trimRight (s ++ after) = trimRight s := by
  rw [trimRight, trimRight, List.reverse_append,
    List.dropWhile_append_of_pos fun c member => blank c (List.mem_reverse.mp member)]

theorem trim_append_left (blank : ∀ c ∈ before, isBlank c = true) (s : List Char) :
    trim (before ++ s) = trim s := by
  rw [trim, trim, trimLeft, trimLeft, List.dropWhile_append_of_pos blank]

theorem trim_append_right (blank : ∀ c ∈ after, isBlank c = true) (s : List Char) :
    trim (s ++ after) = trim s := by
  rw [trim, trim, trimLeft, trimLeft, List.dropWhile_append]
  split
  · next none =>
    rw [List.isEmpty_iff.mp none, ← List.append_nil after, List.dropWhile_append_of_pos blank,
      List.dropWhile_nil]
  · exact trimRight_append blank _

/-- What trimming takes away are blanks on both sides. -/
theorem exists_append_trim (s : List Char) :
    ∃ before after, s = before ++ trim s ++ after ∧ (∀ c ∈ before, isBlank c = true) ∧
      ∀ c ∈ after, isBlank c = true := by
  refine ⟨s.takeWhile isBlank, ((trimLeft s).reverse.takeWhile isBlank).reverse, ?_, ?_, ?_⟩
  · rw [trim, trimRight, List.append_assoc, ← List.reverse_append, List.takeWhile_append_dropWhile,
      List.reverse_reverse, trimLeft, List.takeWhile_append_dropWhile]
  · exact List.all_eq_true.mp List.all_takeWhile
  · intro c member
    exact List.all_eq_true.mp List.all_takeWhile c (List.mem_reverse.mp member)

/-! The digits of all scripts. -/

/-- No run of digits holds a character that is white space. -/
theorem digitZeros_apart : ∀ start ∈ digitZeros, 0x30 ≤ start ∧
    (start + 9 < 0x85 ∨ 0xA0 < start) ∧ (start + 9 < 0x1680 ∨ 0x1680 < start) ∧
    (start + 9 < 0x2000 ∨ 0x205F < start) ∧ (start + 9 < 0x3000 ∨ 0x3000 < start) := by
  decide

theorem isBlank_of_isDecimal (decimal : isDecimal c = true) : isBlank c = false := by
  rw [isDecimal, digitValue?, Option.isSome_map, List.find?_isSome] at decimal
  obtain ⟨start, run, inside⟩ := decimal
  rw [Bool.and_eq_true, decide_eq_true_eq, decide_eq_true_eq] at inside
  have apart := digitZeros_apart start run
  simp only [isBlank, Bool.or_eq_false_iff, Bool.and_eq_false_iff, beq_eq_false_iff_ne,
    decide_eq_false_iff_not]
  omega

/-! Numerals. -/

/-- An integer text and its number: digits of any script, at most one plus sign before them, and blanks
around both. -/
inductive IsNumeral : List Char → Nat → Prop where
  | written {before sign digits after : List Char} (ahead : ∀ c ∈ before, isBlank c = true)
      (behind : ∀ c ∈ after, isBlank c = true) (signed : sign = [] ∨ sign = ['+'])
      (given : digits ≠ []) (short : digits.length ≤ maxDigits)
      (decimal : ∀ c ∈ digits, isDecimal c = true) :
      IsNumeral (before ++ (sign ++ digits) ++ after) (digitsValue digits)

theorem exists_append_dropPlus (s : List Char) :
    ∃ sign, (sign = [] ∨ sign = ['+']) ∧ s = sign ++ dropPlus s := by
  unfold dropPlus
  split
  · exact ⟨['+'], .inr rfl, rfl⟩
  · exact ⟨[], .inl rfl, rfl⟩

theorem dropPlus_append {sign digits : List Char} (signed : sign = [] ∨ sign = ['+'])
    (decimal : ∀ c ∈ digits, isDecimal c = true) : dropPlus (sign ++ digits) = digits := by
  obtain rfl | rfl := signed
  · rw [List.nil_append, dropPlus]
    rintro rest rfl
    exact absurd (decimal '+' List.mem_cons_self) (by decide)
  · rfl

/-- A sign and digits have no blanks at their ends. -/
theorem trim_signed {sign digits : List Char} (signed : sign = [] ∨ sign = ['+']) (given : digits ≠ [])
    (decimal : ∀ c ∈ digits, isDecimal c = true) : trim (sign ++ digits) = sign ++ digits := by
  apply trim_eq_self
  · intro c first
    obtain rfl | rfl := signed
    · exact isBlank_of_isDecimal (decimal c (List.mem_of_head? first))
    · cases first
      decide
  · intro c last
    rw [List.getLast?_append, Option.or_of_isSome (List.getLast?_isSome.mpr given)] at last
    exact isBlank_of_isDecimal (decimal c (List.mem_of_getLast? last))

/-- Exactly the numerals are read, and as the number that they write. -/
theorem readNatural?_eq_some_iff : readNatural? s = some n ↔ IsNumeral s n := by
  constructor
  · intro read
    unfold readNatural? at read
    dsimp only at read
    split at read
    · next plain =>
      simp only [Bool.and_eq_true, Bool.not_eq_true', decide_eq_true_eq, List.isEmpty_eq_false_iff,
        List.all_eq_true] at plain
      obtain ⟨⟨given, short⟩, decimal⟩ := plain
      cases read
      obtain ⟨before, after, around, ahead, behind⟩ := exists_append_trim s
      obtain ⟨sign, signed, split⟩ := exists_append_dropPlus (trim s)
      have numeral := IsNumeral.written ahead behind signed given short decimal
      rwa [← split, ← around] at numeral
    · cases read
  · rintro ⟨ahead, behind, signed, given, short, decimal⟩
    rw [readNatural?, trim_append_right behind, trim_append_left ahead, trim_signed signed given decimal]
    rw [dropPlus_append signed decimal]
    simpa [given, short] using decimal

theorem not_mem_of_blank (ahead : ∀ c ∈ before, isBlank c = true) (visible : isBlank c = false) :
    c ∉ before := by
  intro member
  rw [ahead c member] at visible
  cases visible

/-- In a numeral there are only blanks, the sign and digits. -/
theorem IsNumeral.not_mem (numeral : IsNumeral s n) (visible : isBlank c = false) (other : c ≠ '+')
    (letter : isDecimal c = false) : c ∉ s := by
  obtain @⟨before, sign, digits, after, ahead, behind, signed, -, -, decimal⟩ := numeral
  have unsigned : c ∉ sign := by
    obtain rfl | rfl := signed
    · exact List.not_mem_nil
    · exact fun member => other (List.mem_singleton.mp member)
  have digitless : c ∉ digits := by
    intro member
    rw [decimal c member] at letter
    cases letter
  simp [not_mem_of_blank ahead visible, not_mem_of_blank behind visible, unsigned, digitless]

theorem IsNumeral.eq_of_eq {m : Nat} (first : IsNumeral s m) (second : IsNumeral s n) : m = n :=
  Option.some.inj ((readNatural?_eq_some_iff.mpr first).symm.trans (readNatural?_eq_some_iff.mpr second))

/-! Numbers as they are printed. -/

theorem toNat_of_isDigit (digit : c.isDigit = true) : 48 ≤ c.toNat ∧ c.toNat ≤ 57 := by
  rw [Char.isDigit, Bool.and_eq_true, decide_eq_true_eq, decide_eq_true_eq] at digit
  exact digit

theorem digitValue?_of_isDigit (digit : c.isDigit = true) :
    digitValue? c = some (c.toNat - '0'.toNat) := by
  obtain ⟨low, high⟩ := toNat_of_isDigit digit
  have first : digitZeros.find? (fun start => start ≤ c.toNat && c.toNat < start + 10) = some 0x30 := by
    apply List.find?_cons_of_pos
    simp only [Bool.and_eq_true, decide_eq_true_eq]
    omega
  rw [digitValue?, first]
  rfl

theorem isDecimal_of_isDigit (digit : c.isDigit = true) : isDecimal c = true := by
  rw [isDecimal, digitValue?_of_isDigit digit]
  rfl

theorem digitsValue_eq_ofDigitChars (digits : ∀ c ∈ s, c.isDigit = true) :
    digitsValue s = Nat.ofDigitChars 10 s 0 := by
  unfold digitsValue Nat.ofDigitChars
  suffices each : ∀ start, s.foldl (fun n c => 10 * n + (digitValue? c).getD 0) start =
      s.foldl (fun n c => 10 * n + (c.toNat - '0'.toNat)) start from each 0
  intro start
  induction s generalizing start with
  | nil => rfl
  | cons c rest ih =>
    rw [List.forall_mem_cons] at digits
    rw [List.foldl_cons, List.foldl_cons, digitValue?_of_isDigit digits.1, Option.getD_some,
      ih digits.2]

theorem isDigit_toDigits (n : Nat) : ∀ c ∈ Nat.toDigits 10 n, c.isDigit = true :=
  fun _ member => Nat.isDigit_of_mem_toDigits (by decide) (by decide) member

/-- A number is a numeral as it is printed. -/
theorem isNumeral_toDigits (short : (Nat.toDigits 10 n).length ≤ maxDigits) :
    IsNumeral (Nat.toDigits 10 n) n := by
  have printed : IsNumeral ([] ++ ([] ++ Nat.toDigits 10 n) ++ []) (digitsValue (Nat.toDigits 10 n)) :=
    .written nofun nofun (.inl rfl) Nat.toDigits_ne_nil short fun c member =>
      isDecimal_of_isDigit (isDigit_toDigits n c member)
  rwa [digitsValue_eq_ofDigitChars (isDigit_toDigits n), Nat.ofDigitChars_ten_toDigits,
    List.nil_append, List.append_nil] at printed

/-- A digit is printed as itself. -/
theorem toDigits_of_isDigit (digit : c.isDigit = true) : Nat.toDigits 10 (c.toNat - '0'.toNat) = [c] := by
  obtain ⟨low, high⟩ := toNat_of_isDigit digit
  have zero : '0'.toNat = 48 := rfl
  have small : c.toNat - '0'.toNat < 10 := by omega
  have each : ∀ m : Fin 10, m.val.digitChar.toNat = m.val + 48 := by decide
  have code : (c.toNat - '0'.toNat).digitChar.toNat = c.toNat := by
    rw [each ⟨_, small⟩]
    dsimp only
    omega
  rw [Nat.toDigits_of_lt_base small, Char.toNat_inj.mp code]

/-- Digits behind a number are printed as they stand. -/
theorem toDigits_ofDigitChars_of_pos (digits : ∀ c ∈ s, c.isDigit = true) (positive : 0 < n) :
    Nat.toDigits 10 (Nat.ofDigitChars 10 s n) = Nat.toDigits 10 n ++ s := by
  induction s generalizing n with
  | nil => rw [Nat.ofDigitChars_nil, List.append_nil]
  | cons c rest ih =>
    rw [List.forall_mem_cons] at digits
    have small : c.toNat - '0'.toNat < 10 := by
      have high := (toNat_of_isDigit digits.1).2
      have zero : '0'.toNat = 48 := rfl
      omega
    rw [Nat.ofDigitChars_cons, ih digits.2 (by omega),
      ← Nat.toDigits_append_toDigits (by decide) positive small, toDigits_of_isDigit digits.1,
      List.append_assoc, List.singleton_append]

/-- Digits without a zero ahead of them are as their number is printed. -/
theorem toDigits_ofDigitChars (digits : ∀ c ∈ s, c.isDigit = true) (given : s ≠ [])
    (unled : s.head? = some '0' → s.length = 1) :
    Nat.toDigits 10 (Nat.ofDigitChars 10 s 0) = s := by
  obtain ⟨c, rest, rfl⟩ := List.exists_cons_of_ne_nil given
  rw [List.forall_mem_cons] at digits
  by_cases zero : c = '0'
  · subst zero
    have alone : rest = [] := List.length_eq_zero_iff.mp (Nat.succ.inj (unled rfl))
    subst alone
    rfl
  · have positive : 0 < c.toNat - '0'.toNat := by
      have low := (toNat_of_isDigit digits.1).1
      have other : c.toNat ≠ '0'.toNat := fun same => zero (Char.toNat_inj.mp same)
      have code : '0'.toNat = 48 := rfl
      omega
    rw [Nat.ofDigitChars_cons, Nat.mul_zero, Nat.zero_add,
      toDigits_ofDigitChars_of_pos digits.2 positive, toDigits_of_isDigit digits.1,
      List.singleton_append]

theorem readNatural?_toDigits (short : (Nat.toDigits 10 n).length ≤ maxDigits) :
    readNatural? (Nat.toDigits 10 n) = some n :=
  readNatural?_eq_some_iff.mpr (isNumeral_toDigits short)

end BurstLoad.Text
