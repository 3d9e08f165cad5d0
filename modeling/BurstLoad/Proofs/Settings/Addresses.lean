import BurstLoad.Proofs.Endpoint
import BurstLoad.Proofs.Settings.Refusals

/-! Socket addresses of a configuration: what is read as one, and how everything else is refused. What is
read stands for the address and the port of its text, so it can be printed and read again. -/

set_option autoImplicit false

namespace BurstLoad

namespace Endpoint

open Address (Ip Ipv4 Ipv6)

variable {s : List Char} {address : Ip} {n : Nat}

/-- A text in the usual notation: a dotted literal, or one of the sixth version in brackets, and a
port. -/
inductive IsUsual (s : List Char) : Ip → Nat → Prop where
  | dotted {x : Ipv4} {n : Nat} (joined : IsJoined x.print n s) : IsUsual s (.v4 x) n
  | bracketed {host : List Char} {x : Ipv6} {n : Nat} (literal : x.IsLiteral host)
      (joined : IsJoined (boxed host) n s) : IsUsual s (.v6 x) n

/-- A text with a dotted literal in brackets. -/
inductive IsBoxed (s : List Char) : Ip → Nat → Prop where
  | dotted {x : Ipv4} {n : Nat} (joined : IsJoined (boxed x.print) n s) : IsBoxed s (.v4 x) n

/-- The scope of an address, if it has one, does not end the brackets around it. -/
def HasPlainScope : Ip → Prop
  | .v4 _ => True
  | .v6 x => ∀ name ∈ x.scope, IsUnclosed name

/-- The usual notation is read unless its scope ends the brackets, and so is a dotted literal in
brackets. -/
theorem isSpelling_iff :
    IsSpelling s address n ↔ IsUsual s address n ∧ HasPlainScope address ∨ IsBoxed s address n := by
  constructor
  · intro spelling
    cases spelling with
    | bare joined => exact .inl ⟨.dotted joined, trivial⟩
    | bracketed literal unclosed joined =>
      cases address with
      | v4 x =>
        cases literal
        exact .inr (.dotted joined)
      | v6 x => exact .inl ⟨.bracketed literal joined, (isUnclosed_iff_of_isLiteral literal).mp unclosed⟩
  · rintro (⟨usual, plain⟩ | bracketed)
    · cases usual with
      | dotted joined => exact .bare joined
      | bracketed literal joined =>
        exact .bracketed literal ((isUnclosed_iff_of_isLiteral literal).mpr plain) joined
    · obtain @⟨x, _, joined⟩ := bracketed
      exact .bracketed rfl (isUnclosed_of_not_mem x.colon_not_mem_print) joined

/-! A text in the usual notation denotes one address, and not one that stands in brackets. -/

/-- What is after the last colon has none. -/
theorem eq_of_append_colon {first second before behind : List Char} (absent : ':' ∉ before)
    (lacking : ':' ∉ behind) (same : first ++ ':' :: before = second ++ ':' :: behind) :
    first = second ∧ before = behind := by
  obtain ⟨more, rfl, rest⟩ | ⟨more, rfl, rest⟩ := List.append_eq_append_iff.mp same
  · cases more with
    | nil => simpa using rest
    | cons d more =>
      cases rest
      exact absurd (by simp) absent
  · cases more with
    | nil => simpa [eq_comm] using rest
    | cons d more =>
      cases rest
      exact absurd (by simp) lacking

/-- A text has one host and one port. -/
theorem IsJoined.eq_of_eq {first second : List Char} {m : Nat} (one : IsJoined first n s)
    (other : IsJoined second m s) : first = second ∧ n = m := by
  obtain ⟨port, text, number, -⟩ := one
  obtain ⟨port', text', number', -⟩ := other
  obtain ⟨hosts, rfl⟩ := eq_of_append_colon (colon_not_mem_of_isNumeral number)
    (colon_not_mem_of_isNumeral number') (text.symm.trans text')
  exact ⟨hosts, number.eq_of_eq number'⟩

theorem boxed_inj {first second : List Char} (same : boxed first = boxed second) : first = second :=
  List.append_cancel_right (List.cons.inj same).2

theorem print_ne_boxed (x : Ipv4) (host : List Char) : x.print ≠ boxed host := by
  obtain ⟨c, rest, text, digit⟩ := exists_print_eq_cons x
  rw [text]
  intro same
  cases (List.cons.inj same).1
  cases digit

theorem IsUsual.eq_of_eq {other : Ip} {m : Nat} (first : IsUsual s address n)
    (second : IsUsual s other m) : address = other ∧ n = m := by
  cases first with
  | @dotted x _ joined =>
    cases second with
    | @dotted y _ joined' =>
      obtain ⟨same, numbers⟩ := joined.eq_of_eq joined'
      have literal : Ip.IsLiteral x.print (.v4 y) := same
      have literal' : Ip.IsLiteral x.print (.v4 x) := rfl
      exact ⟨literal'.eq_of_eq literal, numbers⟩
    | bracketed _ joined' => exact absurd (joined.eq_of_eq joined').1 (print_ne_boxed x _)
  | @bracketed _ x _ literal joined =>
    cases second with
    | @dotted y _ joined' => exact absurd (joined'.eq_of_eq joined).1 (print_ne_boxed y _)
    | @bracketed _ y _ literal' joined' =>
      obtain ⟨same, numbers⟩ := joined.eq_of_eq joined'
      cases boxed_inj same
      have first : Ip.IsLiteral _ (.v6 x) := literal
      exact ⟨first.eq_of_eq literal', numbers⟩

theorem IsBoxed.not_isUsual {other : Ip} {m : Nat} (bracketed : IsBoxed s address n) :
    ¬IsUsual s other m := by
  intro usual
  obtain @⟨x, _, joined⟩ := bracketed
  cases usual with
  | @dotted y _ joined' => exact print_ne_boxed y _ (joined'.eq_of_eq joined).1
  | bracketed literal joined' =>
    cases boxed_inj (joined.eq_of_eq joined').1
    exact x.colon_not_mem_print literal.colon_mem

end Endpoint

namespace Settings

open Endpoint (IsSpelling IsUsual IsBoxed HasPlainScope)

variable {s : String} {e : Endpoint}

theorem readEndpoint_text_eq_ok_iff : readEndpoint (.text s) = .ok e ↔
    ∃ address n, IsSpelling s.toList address n ∧ e = ⟨String.ofList address.print, n⟩ := by
  rw [← Endpoint.read?_eq_some_iff, readEndpoint]
  cases Endpoint.read? s.toList <;> simp

/-- A text that is read, and the socket address that stands for it. -/
structure IsFaithful (s : String) (e : Endpoint) : Prop where
  host : ∃ address n, IsSpelling s.toList address n ∧ address.IsCanonical e.host.toList ∧ e.port = n
  port : 0 ≤ e.port ∧ e.port ≤ Endpoint.maxPort
  again : readEndpoint (.text e.print) = .ok e
  same : ∀ t d, readEndpoint (.text t) = .ok d →
    (e = d ↔ ∃ address n, IsSpelling s.toList address n ∧ IsSpelling t.toList address n)
  printed : ∀ t d, readEndpoint (.text t) = .ok d → e.print = d.print → e = d

theorem readEndpoint_print (accepted : readEndpoint (.text s) = .ok e) :
    readEndpoint (.text e.print) = .ok e := by
  obtain ⟨address, n, spelling, rfl⟩ := readEndpoint_text_eq_ok_iff.mp accepted
  exact readEndpoint_text_eq_ok_iff.mpr ⟨address, n, spelling.print, rfl⟩

theorem eq_iff_of_readEndpoint {t : String} {d : Endpoint} (first : readEndpoint (.text s) = .ok e)
    (second : readEndpoint (.text t) = .ok d) :
    e = d ↔ ∃ address n, IsSpelling s.toList address n ∧ IsSpelling t.toList address n := by
  constructor
  · rintro rfl
    obtain ⟨address, n, spelling, rfl⟩ := readEndpoint_text_eq_ok_iff.mp first
    obtain ⟨other, m, spelling', same⟩ := readEndpoint_text_eq_ok_iff.mp second
    have printed := spelling'.print
    rw [← same] at printed
    -- The text that is printed of both denotes only one address.
    obtain ⟨rfl, rfl⟩ := spelling.print.eq_of_eq printed
    exact ⟨address, n, spelling, spelling'⟩
  · rintro ⟨address, n, spelling, spelling'⟩
    rw [readEndpoint_text_eq_ok_iff.mpr ⟨address, n, spelling, rfl⟩] at first
    rw [readEndpoint_text_eq_ok_iff.mpr ⟨address, n, spelling', rfl⟩] at second
    exact Except.ok.inj (first.symm.trans second)

/-- A socket address that is read of a text has the canonical text of the address that is written there,
with its scope, and the port that is written. It reads as itself when it is printed. Texts of one
address and port give one socket address, and others give others, with other texts. -/
theorem isFaithful_of_readEndpoint (accepted : readEndpoint (.text s) = .ok e) : IsFaithful s e where
  host := by
    obtain ⟨address, n, spelling, rfl⟩ := readEndpoint_text_eq_ok_iff.mp accepted
    refine ⟨address, n, spelling, ?_, rfl⟩
    exact Address.Ip.isCanonical_iff.mpr String.toList_ofList
  port := by
    obtain ⟨address, n, spelling, rfl⟩ := readEndpoint_text_eq_ok_iff.mp accepted
    exact ⟨Int.natCast_nonneg n, Int.ofNat_le.mpr spelling.small⟩
  again := readEndpoint_print accepted
  same _ _ second := eq_iff_of_readEndpoint accepted second
  printed _ _ second texts := by
    have again := readEndpoint_print second
    rw [← texts, readEndpoint_print accepted] at again
    exact Except.ok.inj again

theorem isFaithful_spelled :
    readEndpoint (.text "\u2003[FE80:0::1.2.3.4%a]b:c]: +٠٩٠٠٠") = .ok ⟨"fe80::102:304%a]b:c", 9000⟩ ∧
      IsFaithful "\u2003[FE80:0::1.2.3.4%a]b:c]: +٠٩٠٠٠" ⟨"fe80::102:304%a]b:c", 9000⟩ :=
  ⟨rfl, isFaithful_of_readEndpoint rfl⟩

/-! What is read and what is refused. -/

/-- A value is taken for a socket address if it is one or a text in the usual notation, and is rejected
otherwise. -/
structure Conforms (v : Value) : Prop where
  accepts : (∃ e, readEndpoint v = .ok e) ↔
    (∃ e, v = .endpoint e) ∨ ∃ s address n, v = .text s ∧ IsUsual s.toList address n
  rejects : ∀ failure, readEndpoint v = .error failure → failure.isRejection = true

/-- What is read otherwise: a dotted literal in brackets, a scope that ends the brackets around it, and a
value that no message can show. -/
inductive Departs : Value → Prop where
  | boxed {s : String} {address : Address.Ip} {n : Nat} (bracketed : IsBoxed s.toList address n) :
      Departs (.text s)
  | closed {s : String} {address : Address.Ip} {n : Nat} (usual : IsUsual s.toList address n)
      (closed : ¬HasPlainScope address) : Departs (.text s)
  | unwritable {v : Value} (unwritable : IsUnwritable v) : Departs v

theorem eq_addressFailure_of_readEndpoint {v : Value} {failure : Failure}
    (failed : readEndpoint v = .error failure) : failure = addressFailure v := by
  unfold readEndpoint at failed
  split at failed
  · cases failed
  · split at failed
    · cases failed
    · cases failed
      rfl
  · cases failed
    rfl

theorem readEndpoint_eq_ok_iff {v : Value} :
    readEndpoint v = .ok e ↔ v = .endpoint e ∨ ∃ s address n, v = .text s ∧
      (IsUsual s.toList address n ∧ HasPlainScope address ∨ IsBoxed s.toList address n) ∧
        e = ⟨String.ofList address.print, n⟩ := by
  cases v with
  | endpoint d => simp [readEndpoint]
  | text s =>
    simp only [readEndpoint_text_eq_ok_iff, Endpoint.isSpelling_iff]
    simp
  | _ => simp [readEndpoint]

theorem Departs.not_conforms {v : Value} (departs : Departs v) : ¬Conforms v := by
  rintro ⟨accepts, rejects⟩
  cases departs with
  | @boxed s address n bracketed =>
    obtain ⟨e, same⟩ | ⟨t, other, m, same, usual⟩ :=
      accepts.mp ⟨_, readEndpoint_eq_ok_iff.mpr (.inr ⟨s, address, n, rfl, .inr bracketed, rfl⟩)⟩
    · cases same
    · cases same
      exact bracketed.not_isUsual usual
  | @closed s address n usual closed =>
    obtain ⟨e, accepted⟩ := accepts.mpr (.inr ⟨s, address, n, rfl, usual⟩)
    obtain same | ⟨t, other, m, same, ⟨regular, plain⟩ | bracketed, -⟩ := readEndpoint_eq_ok_iff.mp accepted
    · cases same
    · cases same
      obtain ⟨rfl, -⟩ := usual.eq_of_eq regular
      exact closed plain
    · cases same
      exact bracketed.not_isUsual usual
  | unwritable unwritable =>
    have rejected := rejects _ (readEndpoint_eq_unshowable_iff.mpr unwritable)
    cases rejected

theorem conforms_of_not_departs {v : Value} (regular : ¬Departs v) : Conforms v where
  accepts := by
    constructor
    · rintro ⟨e, accepted⟩
      obtain same | ⟨s, address, n, rfl, ⟨usual, -⟩ | bracketed, -⟩ := readEndpoint_eq_ok_iff.mp accepted
      · exact .inl ⟨e, same⟩
      · exact .inr ⟨s, address, n, rfl, usual⟩
      · exact absurd (.boxed bracketed) regular
    · rintro (⟨e, rfl⟩ | ⟨s, address, n, rfl, usual⟩)
      · exact ⟨e, rfl⟩
      · have plain : HasPlainScope address := by
          by_contra closed
          exact regular (.closed usual closed)
        exact ⟨_, readEndpoint_eq_ok_iff.mpr (.inr ⟨s, address, n, rfl, .inl ⟨usual, plain⟩, rfl⟩)⟩
  rejects failure failed := by
    by_contra escapes
    rw [Bool.not_eq_true] at escapes
    rw [eq_unshowable_of_readEndpoint failed escapes, readEndpoint_eq_unshowable_iff] at failed
    exact regular (.unwritable failed)

/-- What is read as a socket address: one that is built already, and a text in the usual notation or
with a boxed literal, unless a bracket in its scope ends the host. Anything else is rejected, if the
message can show it. So the notation is kept to but for these departures. -/
theorem readEndpoint_grammar (v : Value) :
    (Conforms v ↔ ¬Departs v) ∧
    (∀ e, readEndpoint v = .ok e ↔ v = .endpoint e ∨ ∃ s address n, v = .text s ∧
      (IsUsual s.toList address n ∧ HasPlainScope address ∨ IsBoxed s.toList address n) ∧
        e = ⟨String.ofList address.print, n⟩) ∧
    ∀ failure, readEndpoint v = .error failure →
      failure = if v.isShowable then .rejected (.address v) else .unshowable :=
  ⟨⟨fun conforms departs => departs.not_conforms conforms, conforms_of_not_departs⟩,
    fun _ => readEndpoint_eq_ok_iff, fun _ => eq_addressFailure_of_readEndpoint⟩

/-- A dotted literal is read in brackets too, and a host ends at the first bracket with a colon behind
it, even inside a scope. -/
theorem not_conforms_boxed_closed :
    (readEndpoint (.text "[127.0.0.1]:80") = .ok ⟨"127.0.0.1", 80⟩ ∧
      ¬Conforms (.text "[127.0.0.1]:80")) ∧
    readEndpoint (.text "[::1%a]:b]:80") = .error (.rejected (.address (.text "[::1%a]:b]:80"))) ∧
      ¬Conforms (.text "[::1%a]:b]:80") := by
  have number : Text.IsNumeral "80".toList 80 := Text.readNatural?_eq_some_iff.mp rfl
  refine ⟨⟨rfl, ?_⟩, rfl, ?_⟩
  · have bracketed : IsBoxed "[127.0.0.1]:80".toList (.v4 ⟨127, 0, 0, 1⟩) 80 :=
      .dotted ⟨"80".toList, rfl, number, by decide⟩
    exact Departs.not_conforms (.boxed bracketed)
  · let loopback : Address.Ipv6 := ⟨[0, 0, 0, 0, 0, 0, 0, 1], some "a]:b".toList, rfl⟩
    have literal : loopback.IsLiteral "::1%a]:b".toList := Address.Ipv6.isLiteral_of_read? rfl
    have usual : IsUsual "[::1%a]:b]:80".toList (.v6 loopback) 80 :=
      .bracketed literal ⟨"80".toList, rfl, number, by decide⟩
    refine Departs.not_conforms (.closed usual fun plain => ?_)
    exact plain _ rfl ⟨['a'], ['b'], rfl⟩

end Settings

end BurstLoad
