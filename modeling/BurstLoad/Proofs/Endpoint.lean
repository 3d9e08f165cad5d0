import BurstLoad.Endpoint
import BurstLoad.Proofs.Address
import BurstLoad.Proofs.Numeral

/-! Socket addresses: which texts are read, and as which address and port. What is printed of an address
that was read is one of its texts, so it reads as this address again. -/

set_option autoImplicit false

namespace BurstLoad.Endpoint

open Address (Ip Ipv4)

variable {host port s : List Char} {address : Ip} {n : Nat}

/-! Ports. -/

theorem readPort?_eq_some_iff : readPort? port = some n ↔ Text.IsNumeral port n ∧ n ≤ maxPort := by
  rw [readPort?, Option.filter_eq_some_iff, Text.readNatural?_eq_some_iff, decide_eq_true_eq]

theorem isNumeral_toDigits_of_le (small : n ≤ maxPort) : Text.IsNumeral (Nat.toDigits 10 n) n := by
  have short : (Nat.toDigits 10 n).length ≤ 5 :=
    (Nat.length_toDigits_le_iff (by decide) (by decide)).mpr (Nat.lt_of_le_of_lt small (by decide))
  exact Text.isNumeral_toDigits (Nat.le_trans short (by decide))

theorem colon_not_mem_of_isNumeral (number : Text.IsNumeral port n) : ':' ∉ port :=
  number.not_mem (by decide) (by decide) (by decide)

/-! The bracket and the colon that end a host. -/

/-- A host in which no bracket is followed by a colon. -/
def IsUnclosed (host : List Char) : Prop :=
  ¬[']', ':'] <:+: host

theorem isUnclosed_of_not_mem (absent : ':' ∉ host) : IsUnclosed host :=
  fun closed => absent (closed.subset (by simp))

theorem isUnclosed_append_iff {before : List Char} (plain : ']' ∉ before) :
    IsUnclosed (before ++ host) ↔ IsUnclosed host := by
  unfold IsUnclosed
  induction before with
  | nil => rfl
  | cons c rest ih =>
    rw [List.mem_cons, not_or] at plain
    rw [← ih plain.2, List.cons_append, List.infix_cons_iff, List.cons_prefix_cons]
    simp [plain.1]

theorem cutAtBracket?_cons {c : Char} (going : ∀ rest, c = ']' → s ≠ ':' :: rest) :
    cutAtBracket? (c :: s) = (cutAtBracket? s).map fun (l, r) => (c :: l, r) := by
  rw [cutAtBracket?]
  exact fun rest bracket colon => going rest bracket colon

/-- A host in which no bracket ends is cut off at the bracket after it. -/
theorem cutAtBracket?_append (unclosed : IsUnclosed host) (port : List Char) :
    cutAtBracket? (host ++ ']' :: ':' :: port) = some (host, port) := by
  induction host with
  | nil => rfl
  | cons c rest ih =>
    rw [IsUnclosed, List.infix_cons_iff, not_or] at unclosed
    rw [List.cons_append, cutAtBracket?_cons, ih unclosed.2, Option.map_some]
    rintro more rfl
    cases rest with
    | nil => simp
    | cons d rest =>
      rintro same
      cases same
      exact unclosed.1 (by simp)

theorem eq_of_cutAtBracket? (cut : cutAtBracket? s = some (host, port)) :
    s = host ++ ']' :: ':' :: port := by
  fun_induction cutAtBracket? s generalizing host with
  | case1 rest =>
    cases cut
    rfl
  | case2 c rest _ ih =>
    obtain ⟨⟨l, r⟩, later, same⟩ := Option.map_eq_some_iff.mp cut
    cases same
    rw [ih later, List.cons_append]
  | case3 => cases cut

theorem isUnclosed_of_cutAtBracket? (cut : cutAtBracket? s = some (host, port)) : IsUnclosed host := by
  fun_induction cutAtBracket? s generalizing host with
  | case1 rest =>
    cases cut
    exact isUnclosed_of_not_mem List.not_mem_nil
  | case2 c rest going ih =>
    obtain ⟨⟨l, r⟩, later, same⟩ := Option.map_eq_some_iff.mp cut
    cases same
    rw [IsUnclosed, List.infix_cons_iff, not_or]
    refine ⟨?_, ih later⟩
    -- A colon at the head of the host would be one after the bracket.
    rintro ⟨more, closed⟩
    cases closed
    exact going _ rfl (eq_of_cutAtBracket? later)
  | case3 => cases cut

theorem eq_of_cutAtColon? (cut : cutAtColon? s = some (host, port)) :
    s = host ++ ':' :: port ∧ ':' ∉ host := by
  unfold cutAtColon? at cut
  split at cut
  · next c rest behind =>
    have stop := List.head?_dropWhile_not (· != ':') s
    rw [behind] at stop
    obtain rfl : c = ':' := by simpa using stop
    split at cut
    · cases cut
    · cases cut
      constructor
      · rw [← behind, List.takeWhile_append_dropWhile]
      · intro member
        simpa using List.all_eq_true.mp List.all_takeWhile _ member
  · cases cut

theorem cutAtColon?_append (before : ':' ∉ host) (behind : ':' ∉ port) :
    cutAtColon? (host ++ ':' :: port) = some (host, port) := by
  have ahead : ∀ c ∈ host, (c != ':') = true := by
    rintro c member
    rw [bne_iff_ne]
    rintro rfl
    exact before member
  rw [cutAtColon?, List.dropWhile_append_of_pos ahead, List.takeWhile_append_of_pos ahead]
  simp [behind]

/-! Texts of socket addresses. -/

/-- A text of a host and a port: without the blanks around it, the host, a colon and a numeral. -/
def IsJoined (host : List Char) (n : Nat) (s : List Char) : Prop :=
  ∃ port, Text.trim s = host ++ ':' :: port ∧ Text.IsNumeral port n ∧ n ≤ maxPort

/-- A host in brackets. -/
def boxed (host : List Char) : List Char :=
  '[' :: host ++ [']']

/-- A text of a socket address, with the IP address and the port that it denotes: a dotted literal or a
literal in brackets, and a port. -/
inductive IsSpelling (s : List Char) : Ip → Nat → Prop where
  | bare {x : Ipv4} {n : Nat} (joined : IsJoined x.print n s) : IsSpelling s (.v4 x) n
  | bracketed {host : List Char} {address : Ip} {n : Nat} (literal : address.IsLiteral host)
      (unclosed : IsUnclosed host) (joined : IsJoined (boxed host) n s) : IsSpelling s address n

theorem isSpelling_of_parts? (parts : parts? (Text.trim s) = some (host, port))
    (literal : address.IsLiteral host) (number : Text.IsNumeral port n) (small : n ≤ maxPort) :
    IsSpelling s address n := by
  unfold parts? at parts
  split at parts
  · next rest text =>
    have joined : IsJoined (boxed host) n s :=
      ⟨port, by rw [text, eq_of_cutAtBracket? parts]; simp [boxed], number, small⟩
    exact .bracketed literal (isUnclosed_of_cutAtBracket? parts) joined
  · obtain ⟨text, absent⟩ := eq_of_cutAtColon? parts
    cases address with
    | v4 x =>
      obtain rfl : host = x.print := literal
      exact .bare ⟨port, text, number, small⟩
    | v6 x => exact absurd (Address.Ipv6.IsLiteral.colon_mem literal) absent

/-- A dotted literal begins with a digit. -/
theorem exists_print_eq_cons (x : Ipv4) : ∃ c rest, x.print = c :: rest ∧ c.isDigit = true := by
  obtain ⟨c, rest, digits⟩ := List.exists_cons_of_ne_nil (Nat.toDigits_ne_nil (n := x.a.toNat) (b := 10))
  refine ⟨c, rest ++ '.' :: Address.printOctet x.b ++ '.' :: Address.printOctet x.c ++
    '.' :: Address.printOctet x.d, ?_, ?_⟩
  · rw [Ipv4.print, Address.printOctet, digits]
    rfl
  · apply Text.isDigit_toDigits x.a.toNat
    rw [digits]
    exact List.mem_cons_self

theorem parts?_print (number : Text.IsNumeral port n) (x : Ipv4) :
    parts? (x.print ++ ':' :: port) = some (x.print, port) := by
  obtain ⟨c, rest, text, digit⟩ := exists_print_eq_cons x
  rw [parts?]
  · exact cutAtColon?_append x.colon_not_mem_print (colon_not_mem_of_isNumeral number)
  · rw [text]
    rintro _ bracket
    cases bracket
    cases digit

theorem parts?_boxed (unclosed : IsUnclosed host) (port : List Char) :
    parts? (boxed host ++ ':' :: port) = some (host, port) := by
  have text : boxed host ++ ':' :: port = '[' :: (host ++ ']' :: ':' :: port) := by
    simp [boxed]
  rw [text, parts?, cutAtBracket?_append unclosed]

theorem IsSpelling.exists_parts? (spelling : IsSpelling s address n) :
    ∃ host port, parts? (Text.trim s) = some (host, port) ∧ address.IsLiteral host ∧
      Text.IsNumeral port n := by
  cases spelling with
  | @bare x _ joined =>
    obtain ⟨port, text, number, -⟩ := joined
    exact ⟨x.print, port, by rw [text, parts?_print number], rfl, number⟩
  | @bracketed host _ _ literal unclosed joined =>
    obtain ⟨port, text, number, -⟩ := joined
    exact ⟨host, port, by rw [text, parts?_boxed unclosed], literal, number⟩

theorem IsJoined.small (joined : IsJoined host n s) : n ≤ maxPort := by
  obtain ⟨_, -, -, small⟩ := joined
  exact small

theorem IsSpelling.small (spelling : IsSpelling s address n) : n ≤ maxPort := by
  cases spelling with
  | bare joined => exact joined.small
  | bracketed _ _ joined => exact joined.small

/-- Exactly the texts of socket addresses are read: with the canonical text of the address, and with the
port that is written. -/
theorem read?_eq_some_iff {e : Endpoint} :
    read? s = some e ↔ ∃ address n, IsSpelling s address n ∧ e = ⟨String.ofList address.print, n⟩ := by
  unfold read?
  constructor
  · intro read
    obtain ⟨⟨host, port⟩, parts, read⟩ := Option.bind_eq_some_iff.mp read
    obtain ⟨address, literal, read⟩ := Option.bind_eq_some_iff.mp read
    obtain ⟨n, number, read⟩ := Option.bind_eq_some_iff.mp read
    obtain ⟨numeral, small⟩ := readPort?_eq_some_iff.mp number
    cases read
    exact ⟨address, n, isSpelling_of_parts? parts (Ip.read?_eq_some_iff.mp literal) numeral small, rfl⟩
  · rintro ⟨address, n, spelling, rfl⟩
    obtain ⟨host, port, parts, literal, numeral⟩ := spelling.exists_parts?
    simp only [parts, Ip.read?_eq_some_iff.mpr literal,
      readPort?_eq_some_iff.mpr ⟨numeral, spelling.small⟩, Option.bind_eq_bind, Option.bind_some]
    rfl

/-- A text denotes one address and one port. -/
theorem IsSpelling.eq_of_eq {other : Ip} {m : Nat} (first : IsSpelling s address n)
    (second : IsSpelling s other m) : address = other ∧ n = m := by
  obtain ⟨host, port, parts, literal, numeral⟩ := first.exists_parts?
  obtain ⟨host', port', parts', literal', numeral'⟩ := second.exists_parts?
  rw [parts] at parts'
  cases parts'
  exact ⟨literal.eq_of_eq literal', numeral.eq_of_eq numeral'⟩

/-! What is printed. -/

theorem print_toList :
    (print ⟨String.ofList host, n⟩).toList =
      (if host.contains ':' then boxed host else host) ++ ':' :: Nat.toDigits 10 n := by
  have digits : toString (n : Int) = String.ofList (Nat.toDigits 10 n) := Nat.toString_eq_ofList_toDigits
  unfold print
  simp only [String.toList_ofList, digits]
  split <;> simp [boxed]

/-- A text that begins with no blank and ends with a number is trimmed already. -/
theorem isJoined_toDigits {c : Char} (first : Text.isBlank c = false) (rest : List Char)
    (small : n ≤ maxPort) : IsJoined (c :: rest) n (c :: rest ++ ':' :: Nat.toDigits 10 n) := by
  refine ⟨Nat.toDigits 10 n, ?_, isNumeral_toDigits_of_le small, small⟩
  apply Text.trim_eq_self
  · rintro d member
    cases member
    exact first
  · intro d member
    have split : c :: rest ++ ':' :: Nat.toDigits 10 n = c :: rest ++ [':'] ++ Nat.toDigits 10 n := by
      simp
    rw [split, List.getLast?_append, Option.or_of_isSome (List.getLast?_isSome.mpr Nat.toDigits_ne_nil)]
      at member
    have digit := Text.isDigit_toDigits n d (List.mem_of_getLast? member)
    exact Text.isBlank_of_isDecimal (Text.isDecimal_of_isDigit digit)

theorem IsSpelling.exists_literal (spelling : IsSpelling s address n) :
    ∃ host, address.IsLiteral host ∧ IsUnclosed host := by
  cases spelling with
  | @bare x _ _ => exact ⟨x.print, rfl, isUnclosed_of_not_mem x.colon_not_mem_print⟩
  | bracketed literal unclosed _ => exact ⟨_, literal, unclosed⟩

/-- A bracket ends only in a scope. -/
theorem isUnclosed_iff_of_isLiteral {x : Address.Ipv6} (literal : x.IsLiteral host) :
    IsUnclosed host ↔ ∀ name ∈ x.scope, IsUnclosed name := by
  obtain @⟨s, ⟨gs, scope, _⟩, groups, -⟩ := literal
  rw [isUnclosed_append_iff (groups.not_mem (by decide) (by decide) (by decide))]
  cases scope with
  | none => exact iff_of_true (isUnclosed_of_not_mem List.not_mem_nil) nofun
  | some name =>
    have marked : IsUnclosed (['%'] ++ name) ↔ IsUnclosed name := isUnclosed_append_iff (by decide)
    simpa [Address.scopeText] using marked

theorem isUnclosed_print (literal : address.IsLiteral host) (unclosed : IsUnclosed host) :
    IsUnclosed address.print := by
  cases address with
  | v4 x => exact isUnclosed_of_not_mem x.colon_not_mem_print
  | v6 x =>
    have plain := (isUnclosed_iff_of_isLiteral literal).mp unclosed
    exact (isUnclosed_iff_of_isLiteral literal.print).mpr plain

/-- What is printed of a socket address is one of its texts. -/
theorem IsSpelling.print (spelling : IsSpelling s address n) :
    IsSpelling (Endpoint.print ⟨String.ofList address.print, n⟩).toList address n := by
  obtain ⟨host, literal, unclosed⟩ := spelling.exists_literal
  rw [print_toList]
  cases address with
  | v4 x =>
    have plain : (Ip.print (.v4 x)).contains ':' = false := by
      rw [List.contains_eq_mem, decide_eq_false_iff_not]
      exact x.colon_not_mem_print
    obtain ⟨c, rest, text, digit⟩ := exists_print_eq_cons x
    have visible : Text.isBlank c = false := Text.isBlank_of_isDecimal (Text.isDecimal_of_isDigit digit)
    have joined := isJoined_toDigits visible rest spelling.small
    rw [plain, if_neg Bool.false_ne_true]
    rw [← text] at joined
    exact .bare joined
  | v6 x =>
    have colon : (Ip.print (.v6 x)).contains ':' = true :=
      List.contains_iff_mem.mpr (Address.Ipv6.IsLiteral.colon_mem literal.print)
    rw [if_pos colon]
    exact .bracketed literal.print (isUnclosed_print literal unclosed)
      (isJoined_toDigits (by decide) _ spelling.small)

/-- What is printed of an address that was read reads as this address. -/
theorem read?_print {e : Endpoint} (read : read? s = some e) : read? e.print.toList = some e := by
  obtain ⟨address, n, spelling, rfl⟩ := read?_eq_some_iff.mp read
  exact read?_eq_some_iff.mpr ⟨address, n, spelling.print, rfl⟩

end BurstLoad.Endpoint
