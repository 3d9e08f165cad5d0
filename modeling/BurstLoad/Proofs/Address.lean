import BurstLoad.Proofs.Address.Literal

/-! IP literals in their canonical form: of what can be written of an address one text is canonical, and
this is what is printed of it. So what is printed reads as the address again. -/

set_option autoImplicit false

namespace BurstLoad.Address

/-! Groups as they are printed. -/

theorem hexValue?_digitChar {n : Nat} (small : n < 16) : Text.hexValue? n.digitChar = some n := by
  have each : ∀ m : Fin 16, Text.hexValue? m.val.digitChar = some m.val := by
    decide
  exact each ⟨n, small⟩

/-- The digits of a number have the values that write it. -/
theorem exists_values_hexDigits (n : Nat) :
    ∃ values, List.Forall₂ (fun c d => Text.hexValue? c = some d) (Text.hexDigits n) values ∧
      Nat.ofDigits 16 values.reverse = n := by
  induction n using Nat.strongRecOn with
  | _ n ih =>
    unfold Text.hexDigits at ih ⊢
    rcases Nat.lt_or_ge n 16 with small | large
    · rw [Nat.toDigits_of_lt_base small]
      exact ⟨[n], .cons (hexValue?_digitChar small) .nil, by simp⟩
    · obtain ⟨values, each, value⟩ := ih (n / 16) (by omega)
      refine ⟨values ++ [n % 16], ?_, ?_⟩
      · rw [Nat.toDigits_of_base_le (by decide) large]
        exact List.rel_append each (.cons (hexValue?_digitChar (Nat.mod_lt n (by decide))) .nil)
      · rw [List.reverse_append, List.reverse_singleton, List.singleton_append, Nat.ofDigits_cons, value]
        exact Nat.mod_add_div n 16

theorem isGroup_hexDigits (g : UInt16) : IsGroup (Text.hexDigits g.toNat) g where
  given := Nat.toDigits_ne_nil
  short := (Nat.length_toDigits_le_iff (by decide) (by decide)).mpr g.toNat_lt
  value := exists_values_hexDigits g.toNat

theorem isRow_joinGroups (tail : Bool) (g : UInt16) (gs : List UInt16) :
    IsRow tail (joinGroups (g :: gs)) (g :: gs) := by
  induction gs generalizing g with
  | nil => exact .group (isGroup_hexDigits g)
  | cons h rest ih =>
    rw [joinGroups]
    · exact .cons (isGroup_hexDigits g) (ih h)
    · nofun

theorem isSide_joinGroups (tail : Bool) (gs : List UInt16) : IsSide tail (joinGroups gs) gs := by
  cases gs with
  | nil => exact .empty
  | cons g rest => exact .row (isRow_joinGroups tail g rest)

/-! Runs of zeros. -/

/-- So many groups from a place on are zero. -/
def IsRun (gs : List UInt16) (place n : Nat) : Prop :=
  (gs.drop place).take n = List.replicate n 0

theorem zerosAhead_le (gs : List UInt16) : zerosAhead gs ≤ gs.length :=
  (List.takeWhile_prefix _).length_le

theorem isRun_zerosAhead (gs : List UInt16) : IsRun gs 0 (zerosAhead gs) := by
  have ahead : gs.takeWhile (· == 0) = gs.take (zerosAhead gs) :=
    List.prefix_iff_eq_take.mp (List.takeWhile_prefix _)
  rw [IsRun, List.drop_zero, ← ahead, List.eq_replicate_iff]
  refine ⟨rfl, fun g member => ?_⟩
  simpa using List.all_eq_true.mp List.all_takeWhile g member

theorem IsRun.le_zerosAhead {gs : List UInt16} {n : Nat} (run : IsRun gs 0 n) : n ≤ zerosAhead gs := by
  rw [IsRun, List.drop_zero] at run
  have split := List.take_append_drop n gs
  rw [run] at split
  rw [← split, zerosAhead, List.takeWhile_append_of_pos]
  · simp
  · intro g member
    rw [List.eq_of_mem_replicate member]
    rfl

/-- The run that is found lies in the row. -/
theorem longestZeros_le (gs : List UInt16) :
    (longestZeros gs).1 + (longestZeros gs).2 ≤ gs.length := by
  induction gs with
  | nil => simp [longestZeros]
  | cons g rest ih =>
    have ahead := zerosAhead_le (g :: rest)
    rw [longestZeros]
    dsimp only
    split
    · omega
    · rw [List.length_cons]
      omega

theorem isRun_longestZeros (gs : List UInt16) : IsRun gs (longestZeros gs).1 (longestZeros gs).2 := by
  induction gs with
  | nil => rfl
  | cons g rest ih =>
    rw [longestZeros]
    dsimp only
    split
    · exact isRun_zerosAhead (g :: rest)
    · exact ih

/-- No run is longer than the one that is found. -/
theorem IsRun.le_longestZeros {gs : List UInt16} {place n : Nat} (run : IsRun gs place n) :
    n ≤ (longestZeros gs).2 := by
  induction gs generalizing place with
  | nil =>
    have length := congrArg List.length run
    simp only [List.drop_nil, List.take_nil, List.length_nil, List.length_replicate] at length
    omega
  | cons g rest ih =>
    rw [longestZeros]
    dsimp only
    cases place with
    | zero =>
      have ahead := run.le_zerosAhead
      split <;> omega
    | succ place =>
      have behind : n ≤ (longestZeros rest).2 := ih (show IsRun rest place n from run)
      split <;> omega

/-- No run of this length is before the one that is found. -/
theorem IsRun.longestZeros_le_place {gs : List UInt16} {place : Nat}
    (run : IsRun gs place (longestZeros gs).2) : (longestZeros gs).1 ≤ place := by
  induction gs generalizing place with
  | nil => exact Nat.zero_le place
  | cons g rest ih =>
    rw [longestZeros] at run ⊢
    dsimp only at run ⊢
    split
    · exact Nat.zero_le place
    · next shorter =>
      rw [if_neg shorter] at run
      cases place with
      | zero =>
        have ahead := run.le_zerosAhead
        omega
      | succ place => exact Nat.succ_le_succ (ih (show IsRun rest place _ from run))

/-! The canonical text. -/

/-- The canonical text of groups. Each is written in lower case and without leading zeros, and of the
longest runs of two or more zeros the first is left out. -/
inductive IsCompressed (gs : List UInt16) : List Char → Prop where
  | whole (single : ∀ place n, IsRun gs place n → n ≤ 1) : IsCompressed gs (joinGroups gs)
  | gap {start size : Nat} (run : IsRun gs start size) (long : 2 ≤ size)
      (longest : ∀ place n, IsRun gs place n → n ≤ size)
      (first : ∀ place, IsRun gs place size → start ≤ place) :
      IsCompressed gs (joinGroups (gs.take start) ++ ':' :: ':' :: joinGroups (gs.drop (start + size)))

theorem isCompressed_printGroups (gs : List UInt16) : IsCompressed gs (printGroups gs) := by
  rw [printGroups]
  dsimp only
  split
  · next long =>
    exact .gap (isRun_longestZeros gs) long (fun _ _ => IsRun.le_longestZeros)
      fun _ => IsRun.longestZeros_le_place
  · next short =>
    refine .whole fun place n run => ?_
    have longest := run.le_longestZeros
    omega

theorem IsCompressed.eq_printGroups {gs : List UInt16} {s : List Char} (compressed : IsCompressed gs s) :
    s = printGroups gs := by
  rw [printGroups]
  dsimp only
  cases compressed with
  | whole single =>
    have short := single _ _ (isRun_longestZeros gs)
    rw [if_neg (by omega)]
  | @gap start size run long longest first =>
    have same : (longestZeros gs).2 = size :=
      Nat.le_antisymm (longest _ _ (isRun_longestZeros gs)) run.le_longestZeros
    subst same
    have place : (longestZeros gs).1 = start :=
      Nat.le_antisymm run.longestZeros_le_place (first _ (isRun_longestZeros gs))
    rw [if_pos (by omega), place]

/-- A row around the run of zeros that is found. -/
theorem around_longestZeros (gs : List UInt16) :
    gs.take (longestZeros gs).1 ++ List.replicate (longestZeros gs).2 0 ++
      gs.drop ((longestZeros gs).1 + (longestZeros gs).2) = gs := by
  rw [← isRun_longestZeros gs, ← List.drop_drop, List.append_assoc, List.take_append_drop,
    List.take_append_drop]

/-- The canonical text of eight groups writes these groups. -/
theorem isGroups_printGroups {gs : List UInt16} (eight : gs.length = 8) :
    IsGroups (printGroups gs) gs := by
  have inside := longestZeros_le gs
  rw [printGroups]
  dsimp only
  split
  · next long =>
    have high : (gs.take (longestZeros gs).1).length = (longestZeros gs).1 := by
      rw [List.length_take]
      omega
    have low : (gs.drop ((longestZeros gs).1 + (longestZeros gs).2)).length =
        8 - ((longestZeros gs).1 + (longestZeros gs).2) := by
      rw [List.length_drop, eight]
    have zeros : 8 - (longestZeros gs).1 - (8 - ((longestZeros gs).1 + (longestZeros gs).2)) =
        (longestZeros gs).2 := by
      omega
    have groups := IsGroups.gap (isSide_joinGroups false (gs.take (longestZeros gs).1))
      (isSide_joinGroups true (gs.drop ((longestZeros gs).1 + (longestZeros gs).2))) (by omega)
    rwa [high, low, zeros, around_longestZeros] at groups
  · obtain ⟨g, rest, rfl⟩ := List.exists_cons_of_length_eq_add_one eight
    exact .whole (isRow_joinGroups true g rest) eight

/-- The canonical text of an address: for one of the sixth version the canonical text of its groups, and
its scope as it was written. -/
inductive Ip.IsCanonical : List Char → Ip → Prop where
  | v4 (x : Ipv4) : IsCanonical x.print (.v4 x)
  | v6 {s : List Char} {x : Ipv6} (compressed : IsCompressed x.groups s) :
      IsCanonical (s ++ scopeText x.scope) (.v6 x)

theorem Ip.isCanonical_iff {s : List Char} {x : Ip} : IsCanonical s x ↔ s = x.print := by
  constructor
  · intro canonical
    cases canonical with
    | v4 => rfl
    | v6 compressed =>
      rw [compressed.eq_printGroups]
      rfl
  · rintro rfl
    cases x with
    | v4 x => exact .v4 x
    | v6 x => exact .v6 (isCompressed_printGroups x.groups)

/-- What is printed of the address that a literal denotes is a literal of it too. -/
theorem Ip.IsLiteral.print {s : List Char} {x : Ip} (literal : IsLiteral s x) : IsLiteral x.print x := by
  cases x with
  | v4 x => rfl
  | v6 x =>
    obtain ⟨-, named⟩ := literal
    exact .written (isGroups_printGroups x.length_groups) named

/-- What is printed of an address that was read reads as this address. -/
theorem Ip.read?_print {s : List Char} {x : Ip} (read : Ip.read? s = some x) :
    Ip.read? x.print = some x :=
  read?_eq_some_iff.mpr (read?_eq_some_iff.mp read).print

end BurstLoad.Address
