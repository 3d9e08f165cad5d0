import BurstLoad.Address.Ip
import BurstLoad.Proofs.Numeral
import Mathlib.Data.List.Forall2
import Mathlib.Data.Nat.Digits.Lemmas

/-! IP literals: which texts read as an address, and as which one. The grammar says what may be written,
and each reader takes exactly what it allows. An address of the fourth version has one spelling, one of
the sixth many. -/

set_option autoImplicit false

namespace BurstLoad.Address

/-! Texts in pieces. -/

section

variable {sep : Char} {s : List Char}

theorem splitOn_of_not_mem (absent : sep ∉ s) : splitOn sep s = [s] := by
  induction s with
  | nil => rfl
  | cons c rest ih =>
    rw [List.mem_cons, not_or] at absent
    have other : (c == sep) = false := beq_false_of_ne (Ne.symm absent.1)
    simp [splitOn, other, ih absent.2]

theorem splitOn_append_cons (absent : sep ∉ s) (rest : List Char) :
    splitOn sep (s ++ sep :: rest) = s :: splitOn sep rest := by
  induction s with
  | nil => simp [splitOn]
  | cons c more ih =>
    rw [List.mem_cons, not_or] at absent
    have other : (c == sep) = false := beq_false_of_ne (Ne.symm absent.1)
    simp [splitOn, other, ih absent.2]

theorem exists_splitOn_eq_cons (sep : Char) (s : List Char) :
    ∃ piece rest, splitOn sep s = piece :: rest := by
  by_cases member : sep ∈ s
  · obtain ⟨before, after, rfl, absent⟩ := List.eq_append_cons_of_mem member
    exact ⟨before, splitOn sep after, splitOn_append_cons absent after⟩
  · exact ⟨s, [], splitOn_of_not_mem member⟩

/-- The pieces with the separators between them are the text. -/
theorem intercalate_splitOn (sep : Char) (s : List Char) :
    List.intercalate [sep] (splitOn sep s) = s := by
  induction s with
  | nil => rfl
  | cons c rest ih =>
    obtain ⟨piece, more, pieces⟩ := exists_splitOn_eq_cons sep rest
    rw [pieces] at ih
    by_cases cut : c = sep
    · have grown : splitOn sep (c :: rest) = [] :: piece :: more := by simp [splitOn, cut, pieces]
      rw [grown, List.intercalate_cons_cons, ih, cut]
      rfl
    · have grown : splitOn sep (c :: rest) = (c :: piece) :: more := by simp [splitOn, cut, pieces]
      rw [grown, ← ih]
      cases more with
      | nil => rw [List.intercalate_singleton, List.intercalate_singleton]
      | cons next more => simp [List.intercalate_cons_cons]

end

/-! Dotted literals. -/

theorem readOctet?_printOctet (n : UInt8) : readOctet? (printOctet n) = some n := by
  have each : ∀ m : Fin 256, readOctet? (printOctet ⟨⟨m⟩⟩) = some ⟨⟨m⟩⟩ := by
    decide +kernel
  exact each n.toBitVec.toFin

theorem eq_printOctet_of_readOctet? {s : List Char} {n : UInt8} (read : readOctet? s = some n) :
    s = printOctet n := by
  unfold readOctet? at read
  split at read
  · cases read
  · next plain =>
    simp only [Bool.or_eq_true, not_or, Bool.not_eq_true', Bool.not_eq_false,
      List.isEmpty_iff, List.all_eq_true] at plain
    obtain ⟨⟨given, -⟩, digits⟩ := plain
    split at read
    · cases read
    · next unled =>
      have alone (zero : s.head? = some '0') : s.length = 1 := by
        have nonempty := List.length_pos_iff.mpr given
        simp only [zero, beq_self_eq_true, Bool.and_true, decide_eq_true_eq] at unled
        omega
      dsimp only at read
      split at read
      · next small =>
        cases read
        have value : s.foldl (fun n c => 10 * n + (c.toNat - 48)) 0 = Nat.ofDigitChars 10 s 0 := rfl
        rw [value] at small ⊢
        rw [printOctet, UInt8.toNat_ofNat_of_lt' (by simpa using Nat.lt_succ_of_le small),
          Text.toDigits_ofDigitChars digits given alone]
      · cases read

theorem readOctet?_eq_some_iff {s : List Char} {n : UInt8} :
    readOctet? s = some n ↔ s = printOctet n := by
  constructor
  · exact eq_printOctet_of_readOctet?
  · rintro rfl
    exact readOctet?_printOctet n

theorem isDigit_of_mem_printOctet {n : UInt8} {c : Char} (member : c ∈ printOctet n) :
    c.isDigit = true :=
  Text.isDigit_toDigits n.toNat c member

theorem dot_not_mem_printOctet (n : UInt8) : '.' ∉ printOctet n := fun member =>
  absurd (isDigit_of_mem_printOctet member) (by decide)

/-- What an address is printed as is its only spelling. -/
theorem Ipv4.read?_eq_some_iff {s : List Char} {x : Ipv4} : Ipv4.read? s = some x ↔ s = x.print := by
  constructor
  · intro read
    unfold Ipv4.read? at read
    split at read
    · next a b c d octets =>
      cases read
      simp only [List.map_eq_cons_iff, List.map_eq_nil_iff, readOctet?_eq_some_iff] at octets
      obtain ⟨_, _, pieces, rfl, _, _, rfl, rfl, _, _, rfl, rfl, _, _, rfl, rfl, rfl⟩ := octets
      rw [← intercalate_splitOn '.' s, pieces]
      simp [List.intercalate_cons_cons, List.intercalate_singleton, Ipv4.print]
    · cases read
  · rintro rfl
    simp only [Ipv4.read?, Ipv4.print, List.append_assoc, List.cons_append,
      splitOn_append_cons (dot_not_mem_printOctet _), splitOn_of_not_mem (dot_not_mem_printOctet _),
      List.map_cons, List.map_nil, readOctet?_printOctet]

theorem Ipv4.cases_of_mem_print {x : Ipv4} {c : Char} (member : c ∈ x.print) :
    c = '.' ∨ c.isDigit = true := by
  simp only [Ipv4.print, List.mem_append, List.mem_cons] at member
  have octet {n : UInt8} (member : c ∈ printOctet n) := isDigit_of_mem_printOctet member
  tauto

theorem Ipv4.not_mem_print {c : Char} (dot : c ≠ '.') (digit : c.isDigit = false) (x : Ipv4) :
    c ∉ x.print := by
  intro member
  obtain same | same := cases_of_mem_print member
  · exact dot same
  · rw [digit] at same
    cases same

theorem Ipv4.colon_not_mem_print (x : Ipv4) : ':' ∉ x.print :=
  x.not_mem_print (by decide) (by decide)

theorem Ipv4.dot_mem_print (x : Ipv4) : '.' ∈ x.print := by
  simp [Ipv4.print]

/-- A text with a colon is no dotted literal. -/
theorem Ipv4.read?_eq_none {s : List Char} (colon : ':' ∈ s) : Ipv4.read? s = none := by
  rw [Option.eq_none_iff_forall_ne_some]
  rintro x read
  rw [Ipv4.read?_eq_some_iff] at read
  subst read
  exact x.colon_not_mem_print colon

/-! Groups. -/

/-- A text that writes a group: one to four hexadecimal digits of either case, the first the highest. -/
structure IsGroup (s : List Char) (g : UInt16) : Prop where
  given : s ≠ []
  short : s.length ≤ 4
  value : ∃ values, List.Forall₂ (fun c d => Text.hexValue? c = some d) s values ∧
    Nat.ofDigits 16 values.reverse = g.toNat

theorem mapM_eq_some_iff_forall₂ {α β : Type} {f : α → Option β} {xs : List α} {ys : List β} :
    xs.mapM f = some ys ↔ List.Forall₂ (fun x y => f x = some y) xs ys := by
  induction xs generalizing ys with
  | nil => simp [eq_comm]
  | cons x rest ih =>
    rw [List.mapM_cons, List.forall₂_cons_left_iff]
    constructor
    · intro read
      obtain ⟨y, first, read⟩ := Option.bind_eq_some_iff.mp read
      obtain ⟨zs, later, same⟩ := Option.bind_eq_some_iff.mp read
      exact ⟨y, zs, first, ih.mp later, (Option.some.inj same).symm⟩
    · rintro ⟨y, zs, first, later, rfl⟩
      rw [first, ih.mpr later]
      rfl

theorem hexValue?_lt {c : Char} {d : Nat} (digit : Text.hexValue? c = some d) : d < 16 := by
  have order {a b : Char} : a ≤ b ↔ a.toNat ≤ b.toNat := Iff.rfl
  have codes : '9'.toNat = 57 ∧ 'f'.toNat = 102 ∧ 'F'.toNat = 70 := ⟨rfl, rfl, rfl⟩
  simp only [Text.hexValue?, Bool.and_eq_true, decide_eq_true_eq, order] at digit
  split at digit
  · cases digit
    omega
  · split at digit
    · cases digit
      omega
    · split at digit
      · cases digit
        omega
      · cases digit

theorem forall₂_lt {s : List Char} {values : List Nat}
    (each : List.Forall₂ (fun c d => Text.hexValue? c = some d) s values) : ∀ d ∈ values, d < 16 := by
  induction each with
  | nil => simp
  | cons digit _ ih => exact List.forall_mem_cons.mpr ⟨hexValue?_lt digit, ih⟩

theorem foldl_eq_ofDigits (values : List Nat) :
    values.foldl (fun n d => 16 * n + d) 0 = Nat.ofDigits 16 values.reverse := by
  rw [Nat.ofDigits_eq_foldr, List.foldr_reverse]
  congr 1
  funext n d
  exact Nat.add_comm _ _

theorem readGroup?_eq_some_iff {s : List Char} {g : UInt16} :
    readGroup? s = some g ↔ IsGroup s g := by
  unfold readGroup?
  constructor
  · intro read
    split at read
    · cases read
    · next plain =>
      simp only [Bool.or_eq_true, not_or, List.isEmpty_iff, decide_eq_true_eq, Nat.not_lt] at plain
      obtain ⟨given, short⟩ := plain
      obtain ⟨values, each, rfl⟩ := Option.map_eq_some_iff.mp read
      rw [mapM_eq_some_iff_forall₂] at each
      refine ⟨given, short, values, each, ?_⟩
      -- Four digits do not exceed the sixteen bits of a group.
      have small : Nat.ofDigits 16 values.reverse < 2 ^ 16 := calc
        Nat.ofDigits 16 values.reverse < 16 ^ values.reverse.length :=
          Nat.ofDigits_lt_base_pow_length (by decide) fun d member =>
            forall₂_lt each d (List.mem_reverse.mp member)
        _ ≤ 16 ^ 4 := Nat.pow_le_pow_right (by decide) (by
          rw [List.length_reverse, ← each.length_eq]
          exact short)
      rw [foldl_eq_ofDigits, UInt16.toNat_ofNat_of_lt' small]
  · rintro ⟨given, short, values, each, value⟩
    have plain : (s.isEmpty || decide (s.length > 4)) = false := by
      rw [Bool.or_eq_false_iff, decide_eq_false_iff_not, List.isEmpty_eq_false_iff]
      exact ⟨given, Nat.not_lt.mpr short⟩
    rw [plain, if_neg Bool.false_ne_true, mapM_eq_some_iff_forall₂.mpr each, Option.map_some,
      foldl_eq_ofDigits, value, UInt16.ofNat_toNat]

/-- What is no hexadecimal digit is not in a group. -/
theorem IsGroup.not_mem {s : List Char} {g : UInt16} {c : Char} (group : IsGroup s g)
    (other : Text.hexValue? c = none) : c ∉ s := by
  obtain ⟨-, -, values, each, -⟩ := group
  intro member
  induction each with
  | nil => cases member
  | cons digit _ ih =>
    obtain rfl | later := List.mem_cons.mp member
    · rw [other] at digit
      cases digit
    · exact ih later

/-! Rows of groups. -/

/-- A row of groups with colons between them. The last of a row at the end of a literal may be dotted,
and then counts as two. -/
inductive IsRow : Bool → List Char → List UInt16 → Prop where
  | group {tail s g} (group : IsGroup s g) : IsRow tail s [g]
  | dotted (x : Ipv4) : IsRow true x.print x.groups
  | cons {tail s g rest gs} (first : IsGroup s g) (row : IsRow tail rest gs) :
      IsRow tail (s ++ ':' :: rest) (g :: gs)

variable {tail : Bool} {s : List Char} {gs : List UInt16}

theorem isRow_of_readGroups? {pieces : List (List Char)} (given : pieces ≠ [])
    (read : readGroups? tail pieces = some gs) : IsRow tail (List.intercalate [':'] pieces) gs := by
  fun_induction readGroups? tail pieces generalizing gs with
  | case1 => contradiction
  | case2 s dotted =>
    obtain ⟨x, literal, rfl⟩ := Option.map_eq_some_iff.mp read
    obtain ⟨rfl, -⟩ := Bool.and_eq_true_iff.mp dotted
    rw [List.intercalate_singleton, Ipv4.read?_eq_some_iff.mp literal]
    exact .dotted x
  | case3 s undotted =>
    obtain ⟨g, group, rfl⟩ := Option.map_eq_some_iff.mp read
    rw [List.intercalate_singleton]
    exact .group (readGroup?_eq_some_iff.mp group)
  | case4 s rest more ih =>
    obtain ⟨g, group, read⟩ := Option.bind_eq_some_iff.mp read
    obtain ⟨hs, later, same⟩ := Option.bind_eq_some_iff.mp read
    cases same
    obtain ⟨piece, pieces, rfl⟩ := List.exists_cons_of_ne_nil more
    rw [List.intercalate_cons_cons, List.append_assoc]
    exact .cons (readGroup?_eq_some_iff.mp group) (ih more later)

theorem IsRow.readGroups?_splitOn (row : IsRow tail s gs) :
    readGroups? tail (splitOn ':' s) = some gs := by
  induction row with
  | @group tail s g group =>
    have undotted : s.contains '.' = false := by
      rw [List.contains_eq_mem, decide_eq_false_iff_not]
      exact group.not_mem (by decide)
    rw [splitOn_of_not_mem (group.not_mem (by decide)), readGroups?, undotted, Bool.and_false,
      if_neg Bool.false_ne_true, readGroup?_eq_some_iff.mpr group]
    rfl
  | dotted x =>
    have dot : x.print.contains '.' = true := List.contains_iff_mem.mpr x.dot_mem_print
    rw [splitOn_of_not_mem x.colon_not_mem_print, readGroups?, dot, Bool.and_true, if_pos rfl,
      Ipv4.read?_eq_some_iff.mpr rfl]
    rfl
  | @cons tail s g rest gs first row ih =>
    rw [splitOn_append_cons (first.not_mem (by decide))]
    obtain ⟨piece, more, pieces⟩ := exists_splitOn_eq_cons ':' rest
    rw [pieces] at ih ⊢
    rw [readGroups?, readGroup?_eq_some_iff.mpr first, ih]
    · rfl
    · nofun

theorem readGroups?_splitOn_eq_some_iff : readGroups? tail (splitOn ':' s) = some gs ↔ IsRow tail s gs := by
  constructor
  · intro read
    obtain ⟨piece, more, pieces⟩ := exists_splitOn_eq_cons ':' s
    rw [← intercalate_splitOn ':' s]
    exact isRow_of_readGroups? (by simp [pieces]) read
  · exact IsRow.readGroups?_splitOn

/-- A row begins with a digit. -/
theorem IsRow.exists_cons (row : IsRow tail s gs) : ∃ c rest, s = c :: rest ∧ c ≠ ':' := by
  cases row with
  | group group =>
    obtain ⟨c, rest, rfl⟩ := List.exists_cons_of_ne_nil group.given
    exact ⟨c, rest, rfl, fun same => group.not_mem (c := ':') (by decide) (same ▸ List.mem_cons_self)⟩
  | dotted x =>
    obtain ⟨c, rest, text⟩ := List.exists_cons_of_ne_nil (List.ne_nil_of_mem x.dot_mem_print)
    refine ⟨c, rest, text, fun same => x.colon_not_mem_print ?_⟩
    rw [text, same]
    exact List.mem_cons_self
  | @cons _ s _ rest _ first row =>
    obtain ⟨c, more, rfl⟩ := List.exists_cons_of_ne_nil first.given
    exact ⟨c, more ++ ':' :: rest, rfl,
      fun same => first.not_mem (c := ':') (by decide) (same ▸ List.mem_cons_self)⟩

/-- What stands on one side of `::`, which may be nothing. -/
inductive IsSide (tail : Bool) : List Char → List UInt16 → Prop where
  | empty : IsSide tail [] []
  | row {s : List Char} {gs : List UInt16} (row : IsRow tail s gs) : IsSide tail s gs

theorem readSide?_eq_some_iff : readSide? tail s = some gs ↔ IsSide tail s gs := by
  unfold readSide?
  constructor
  · intro read
    split at read
    · next empty =>
      cases read
      rw [List.isEmpty_iff.mp empty]
      exact .empty
    · exact .row (readGroups?_splitOn_eq_some_iff.mp read)
  · intro side
    cases side with
    | empty => rfl
    | row row =>
      obtain ⟨c, rest, rfl, -⟩ := row.exists_cons
      exact row.readGroups?_splitOn

/-! The gap that stands for zeros. -/

theorem eq_of_cutAtGap? {l r : List Char} (cut : cutAtGap? s = some (l, r)) :
    s = l ++ ':' :: ':' :: r := by
  fun_induction cutAtGap? s generalizing l with
  | case1 rest =>
    cases cut
    rfl
  | case2 c rest _ ih =>
    obtain ⟨⟨l', r'⟩, later, same⟩ := Option.map_eq_some_iff.mp cut
    cases same
    rw [ih later, List.cons_append]
  | case3 => cases cut

theorem cutAtGap?_append {s : List Char} (absent : ':' ∉ s) (rest : List Char) :
    cutAtGap? (s ++ rest) = (cutAtGap? rest).map fun (l, r) => (s ++ l, r) := by
  induction s with
  | nil => simp
  | cons c more ih =>
    rw [List.mem_cons, not_or] at absent
    have other : c ≠ ':' := Ne.symm absent.1
    rw [List.cons_append, cutAtGap?, ih absent.2, Option.map_map]
    · rfl
    · rintro _ same
      exact absurd same other

theorem cutAtGap?_colon {c : Char} (other : c ≠ ':') (rest : List Char) :
    cutAtGap? (':' :: c :: rest) = (cutAtGap? (c :: rest)).map fun (l, r) => (':' :: l, r) := by
  rw [cutAtGap?]
  rintro _ - same
  cases same
  exact other rfl

/-- There is no gap in a row: the first one is behind it. -/
theorem IsRow.cutAtGap?_append (row : IsRow tail s gs) (rest : List Char) :
    cutAtGap? (s ++ rest) = (cutAtGap? rest).map fun (l, r) => (s ++ l, r) := by
  induction row with
  | group group => exact Address.cutAtGap?_append (group.not_mem (by decide)) rest
  | dotted x => exact Address.cutAtGap?_append x.colon_not_mem_print rest
  | @cons _ s _ more _ first row ih =>
    obtain ⟨c, text, rfl, other⟩ := row.exists_cons
    rw [List.append_assoc, Address.cutAtGap?_append (first.not_mem (by decide)), List.cons_append,
      List.cons_append, cutAtGap?_colon other, ← List.cons_append, ih, Option.map_map, Option.map_map]
    congr 1
    funext ⟨l, r⟩
    simp

theorem IsSide.cutAtGap?_append (side : IsSide tail s gs) (rest : List Char) :
    cutAtGap? (s ++ ':' :: ':' :: rest) = some (s, rest) := by
  cases side with
  | empty => rfl
  | row row => simp [row.cutAtGap?_append, cutAtGap?]

/-- A literal without its scope: eight groups, or at most seven with one gap that stands for those
missing. -/
inductive IsGroups : List Char → List UInt16 → Prop where
  | whole {s : List Char} {gs : List UInt16} (row : IsRow true s gs) (eight : gs.length = 8) :
      IsGroups s gs
  | gap {left right high low} (before : IsSide false left high) (behind : IsSide true right low)
      (few : high.length + low.length ≤ 7) :
      IsGroups (left ++ ':' :: ':' :: right)
        (high ++ List.replicate (8 - high.length - low.length) 0 ++ low)

theorem IsGroups.length_eq (groups : IsGroups s gs) : gs.length = 8 := by
  cases groups with
  | whole _ eight => exact eight
  | gap _ _ few =>
    simp only [List.length_append, List.length_replicate]
    omega

theorem readAddress?_eq_some_iff : readAddress? s = some gs ↔ IsGroups s gs := by
  constructor
  · intro read
    unfold readAddress? at read
    split at read
    · obtain ⟨hs, row, read⟩ := Option.bind_eq_some_iff.mp read
      split at read
      · next eight =>
        cases read
        exact .whole (readGroups?_splitOn_eq_some_iff.mp row) (beq_iff_eq.mp eight)
      · cases read
    · next left right cut =>
      obtain ⟨high, before, read⟩ := Option.bind_eq_some_iff.mp read
      obtain ⟨low, behind, read⟩ := Option.bind_eq_some_iff.mp read
      split at read
      · next few =>
        cases read
        rw [eq_of_cutAtGap? cut]
        exact .gap (readSide?_eq_some_iff.mp before) (readSide?_eq_some_iff.mp behind) few
      · cases read
  · intro groups
    cases groups with
    | whole row eight =>
      have gapless : cutAtGap? s = none := by simpa [cutAtGap?] using row.cutAtGap?_append []
      simp only [readAddress?, gapless, row.readGroups?_splitOn, Option.bind_eq_bind, Option.bind_some,
        eight, beq_self_eq_true, if_true]
    | gap before behind few =>
      simp only [readAddress?, before.cutAtGap?_append, readSide?_eq_some_iff.mpr before,
        readSide?_eq_some_iff.mpr behind, Option.bind_eq_bind, Option.bind_some, if_pos few]

/-- Groups are written with hexadecimal digits, colons and dots. -/
theorem IsRow.not_mem {c : Char} (row : IsRow tail s gs) (other : Text.hexValue? c = none)
    (colon : c ≠ ':') (dot : c ≠ '.') : c ∉ s := by
  induction row with
  | group group => exact group.not_mem other
  | dotted x =>
    refine x.not_mem_print dot (Bool.eq_false_iff.mpr fun digit => ?_)
    have value : Text.hexValue? c = some (c.toNat - 48) := if_pos digit
    rw [other] at value
    cases value
  | cons first _ ih => simp [first.not_mem other, colon, ih]

theorem IsSide.not_mem {c : Char} (side : IsSide tail s gs) (other : Text.hexValue? c = none)
    (colon : c ≠ ':') (dot : c ≠ '.') : c ∉ s := by
  cases side with
  | empty => exact List.not_mem_nil
  | row row => exact row.not_mem other colon dot

theorem IsGroups.not_mem {c : Char} (groups : IsGroups s gs) (other : Text.hexValue? c = none)
    (colon : c ≠ ':') (dot : c ≠ '.') : c ∉ s := by
  cases groups with
  | whole row _ => exact row.not_mem other colon dot
  | gap before behind _ => simp [before.not_mem other colon dot, behind.not_mem other colon dot, colon]

theorem IsGroups.colon_mem (groups : IsGroups s gs) : ':' ∈ s := by
  cases groups with
  | whole row eight =>
    cases row with
    | group => cases eight
    | dotted => cases eight
    | cons => simp
  | gap => simp

/-! Scopes and literals. -/

/-- What may stand after the percent sign: anything but another one and a slash. -/
structure IsScopeName (name : List Char) : Prop where
  given : name ≠ []
  unmarked : '%' ∉ name
  whole : '/' ∉ name

theorem readScope?_cons_eq_some_iff {c : Char} {name : List Char} {scope : Option (List Char)} :
    readScope? (c :: name) = some scope ↔ scope = some name ∧ IsScopeName name := by
  rw [readScope?]
  split
  · next spoilt =>
    simp only [Bool.or_eq_true, List.isEmpty_iff, List.contains_iff_mem] at spoilt
    constructor
    · nofun
    · rintro ⟨-, given, unmarked, whole⟩
      tauto
  · next plain =>
    simp only [Bool.or_eq_true, List.isEmpty_iff, List.contains_iff_mem, not_or] at plain
    obtain ⟨⟨given, unmarked⟩, whole⟩ := plain
    constructor
    · intro same
      cases same
      exact ⟨rfl, given, unmarked, whole⟩
    · rintro ⟨rfl, -⟩
      rfl

/-- What is written of a scope. -/
def scopeText (scope : Option (List Char)) : List Char :=
  match scope with
  | none => []
  | some scope => '%' :: scope

/-- A literal of the sixth version: its groups, and behind a percent sign its scope if it has one. -/
inductive Ipv6.IsLiteral : List Char → Ipv6 → Prop where
  | written {s : List Char} {x : Ipv6} (groups : IsGroups s x.groups)
      (named : ∀ name ∈ x.scope, IsScopeName name) : IsLiteral (s ++ scopeText x.scope) x

theorem Ipv6.isLiteral_of_read? {x : Ipv6} (read : Ipv6.read? s = some x) : IsLiteral s x := by
  unfold Ipv6.read? at read
  obtain ⟨scope, marked, read⟩ := Option.bind_eq_some_iff.mp read
  obtain ⟨groups, written, read⟩ := Option.bind_eq_some_iff.mp read
  rw [readAddress?_eq_some_iff] at written
  rw [dif_pos written.length_eq] at read
  have split : s.takeWhile (· != '%') ++ s.dropWhile (· != '%') = s := List.takeWhile_append_dropWhile
  have stop := List.head?_dropWhile_not (· != '%') s
  generalize s.takeWhile (· != '%') = before, s.dropWhile (· != '%') = behind
    at marked written split stop
  cases read
  subst split
  cases behind with
  | nil =>
    cases marked
    exact .written (x := ⟨groups, none, written.length_eq⟩) written nofun
  | cons c name =>
    obtain rfl : c = '%' := by simpa using stop
    rw [readScope?_cons_eq_some_iff] at marked
    obtain ⟨rfl, named⟩ := marked
    refine .written (x := ⟨groups, some name, written.length_eq⟩) written ?_
    rintro _ ⟨⟩
    exact named

theorem Ipv6.IsLiteral.read?_eq {x : Ipv6} (literal : IsLiteral s x) : Ipv6.read? s = some x := by
  obtain @⟨s, ⟨gs, scope, eight⟩, groups, named⟩ := literal
  have ahead : ∀ c ∈ s, (c != '%') = true := by
    rintro c member
    rw [bne_iff_ne]
    rintro rfl
    exact groups.not_mem (by decide) (by decide) (by decide) member
  have behind : (scopeText scope).dropWhile (· != '%') = scopeText scope := by
    cases scope <;> rfl
  have none : (scopeText scope).takeWhile (· != '%') = [] := by
    cases scope <;> rfl
  have marked : readScope? (scopeText scope) = some scope := by
    cases scope with
    | none => rfl
    | some name => exact readScope?_cons_eq_some_iff.mpr ⟨rfl, named name rfl⟩
  rw [Ipv6.read?, List.dropWhile_append_of_pos ahead, behind, marked,
    List.takeWhile_append_of_pos ahead, none, List.append_nil, readAddress?_eq_some_iff.mpr groups]
  exact dif_pos eight

theorem Ipv6.read?_eq_some_iff {x : Ipv6} : Ipv6.read? s = some x ↔ IsLiteral s x :=
  ⟨isLiteral_of_read?, IsLiteral.read?_eq⟩

theorem Ipv6.IsLiteral.colon_mem {x : Ipv6} (literal : IsLiteral s x) : ':' ∈ s := by
  obtain ⟨groups, -⟩ := literal
  exact List.mem_append_left _ groups.colon_mem

/-- An IP literal and the address that it denotes. -/
def Ip.IsLiteral (s : List Char) : Ip → Prop
  | .v4 x => s = x.print
  | .v6 x => x.IsLiteral s

/-- Exactly the literals are read, and as the address that they denote. -/
theorem Ip.read?_eq_some_iff {x : Ip} : Ip.read? s = some x ↔ IsLiteral s x := by
  unfold Ip.read?
  cases x with
  | v4 x =>
    rw [IsLiteral, ← Ipv4.read?_eq_some_iff]
    cases Ipv4.read? s <;> simp
  | v6 x =>
    rw [IsLiteral, ← Ipv6.read?_eq_some_iff]
    constructor
    · intro read
      split at read
      · cases read
      · obtain ⟨y, parsed, same⟩ := Option.map_eq_some_iff.mp read
        cases same
        exact parsed
    · intro read
      have colon := (Ipv6.isLiteral_of_read? read).colon_mem
      rw [Ipv4.read?_eq_none colon, read]
      rfl

/-- A literal denotes one address. -/
theorem Ip.IsLiteral.eq_of_eq {x y : Ip} (first : IsLiteral s x) (second : IsLiteral s y) : x = y :=
  Option.some.inj ((read?_eq_some_iff.mpr first).symm.trans (read?_eq_some_iff.mpr second))

end BurstLoad.Address
