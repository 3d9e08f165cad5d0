import BurstLoad.Proofs.Endpoint
import BurstLoad.Proofs.Settings.Promises
import BurstLoad.Settings.Source

/-! Settings that were read from a mapping, written as a mapping and read again. The addresses come back
through their texts, and every other field is one that settles to itself. -/

set_option autoImplicit false

namespace BurstLoad.Settings

/-- What is printed of an address that was written in some way writes this address. -/
theorem writes_print {v : Value} {e : Endpoint} (writes : Writes v e) : Writes (.text e.print) e := by
  obtain ⟨s, -, read⟩ := writes
  exact ⟨e.print, rfl, Endpoint.read?_print read⟩

theorem readEndpoint_of_writes {v : Value} {e : Endpoint} (writes : Writes v e) :
    readEndpoint v = .ok e := by
  obtain ⟨s, rfl, read⟩ := writes
  simp only [readEndpoint, read]

theorem mapM_readEndpoint_print {vs : List Value} {es : List Endpoint}
    (writes : List.Forall₂ Writes vs es) :
    (es.map fun e => Value.text e.print).mapM readEndpoint = .ok es := by
  induction writes with
  | nil => rfl
  | cons first later ih =>
    rw [List.map_cons, List.mapM_cons, readEndpoint_of_writes (writes_print first), ih]
    rfl

namespace Field

theorem settle_target_print {v : Value} {e : Endpoint} (writes : Writes v e) :
    target.settle (.text e.print) = (.endpoint e, none) := by
  simp only [settle, readEndpoint_of_writes (writes_print writes)]

theorem settle_nodes_print {vs : List Value} {es : List Endpoint}
    (writes : List.Forall₂ Writes vs es) :
    nodes.settle (.list (es.map fun e => .text e.print)) = (.list (es.map .endpoint), none) := by
  have read := mapM_readEndpoint_print writes
  cases es with
  | nil => rfl
  | cons e rest =>
    simp only [settle, elements?, Value.opened, read]
    rfl

end Field

variable {d : Draft} {s : Settings}

/-- Written settings have all keys and no other. -/
theorem draftFromEntries_toEntries (s : Settings) :
    draftFromEntries s.toEntries = .ok (draftOf s.toEntries) := by
  rfl

/-- The fields as they are written: the addresses as texts, the others as they are. -/
theorem get_draftOf_toEntries (s : Settings) (f : Field) :
    (draftOf s.toEntries).get f =
      match f with
      | .target => .text s.target.print
      | .nodes => .list (s.nodes.map fun e => .text e.print)
      | f => s.toDraft.get f := by
  cases f <;> rfl

/-- Written settings settle to themselves, if their addresses were texts before they were settled. -/
theorem settle_draftOf_toEntries (raw : d.IsRaw) (settled : settle d = .ok s) :
    settle (draftOf s.toEntries) = .ok s := by
  have again := Draft.settle_eq_none_iff.mp (settle_eq_ok_iff.mp (settle_toDraft settled))
  rw [settle_eq_ok_iff, Draft.settle_eq_none_iff]
  intro f
  rw [get_draftOf_toEntries]
  cases f with
  | target => exact Field.settle_target_print (writes_target raw settled)
  | nodes => exact Field.settle_nodes_print (writes_nodes raw settled)
  | _ => exact again _

theorem settle_draftOf_of_ofValue {v : Value} {entries : Entries} (mapping : v.opened = .mapping entries)
    (accepted : ofValue v = .ok s) : settle (draftOf entries) = .ok s := by
  simp only [ofValue, draftOfValue, mapping, draftFromEntries] at accepted
  split at accepted
  · cases accepted
  · split at accepted
    · cases accepted
    · exact accepted
  · cases accepted

/-- Settings that were read from a mapping, with their addresses as texts, are read again from the mapping
that they are written as; so they are also written as this mapping again. -/
theorem ofValue_toEntries {v : Value} {entries : Entries} (mapping : v.opened = .mapping entries)
    (raw : (draftOf entries).IsRaw) (accepted : ofValue v = .ok s) :
    ofValue (.mapping s.toEntries) = .ok s ∧
      (ofValue (.mapping s.toEntries)).map toEntries = .ok s.toEntries := by
  have settled := settle_draftOf_of_ofValue mapping accepted
  have again : ofValue (.mapping s.toEntries) = .ok s := by
    have drafted : draftOfValue (.mapping s.toEntries) = .ok (draftOf s.toEntries) :=
      draftFromEntries_toEntries s
    simp only [ofValue, drafted, bind, Except.bind]
    exact settle_draftOf_toEntries raw settled
  rw [again]
  exact ⟨rfl, rfl⟩

/-- A mapping as a caller may give it, with itself under one of its keys, and the settings in it. -/
def spelledOut (self : Value) : Entries := [
  (.text "local", self), (.text "probe_delay_ms", .bool true), (.text "rate", .text " +007 "),
  (.text "target", .text "[FE80:0::1%a]b]:+٩٠٠٠"), (.text "size", .text "٤٠"), (.text "port", .int 0),
  (.text "nodes", .tuple [.text "127.0.0.1:80", .text "\t[::0:0:1.2.3.4]:065535"])]

def spelled : Settings :=
  ⟨⟨"fe80::1%a]b", 9000⟩, 40, 7, 0, [⟨"127.0.0.1", 80⟩, ⟨"::102:304", 65535⟩], true, false, .int 1000,
    .bool true⟩

theorem ofValue_spelled :
    ofValue (.knot 0 (.mapping (spelledOut (.back 0)))) = .ok spelled ∧
      ofValue (.mapping spelled.toEntries) = .ok spelled ∧
      (ofValue (.mapping spelled.toEntries)).map toEntries = .ok spelled.toEntries := by
  let whole : Value := .knot 0 (.mapping (spelledOut (.back 0)))
  have accepted : ofValue whole = .ok spelled := by
    rfl
  have raw : (draftOf (spelledOut whole)).IsRaw := by
    have given : (draftOf (spelledOut whole)).givenNodes =
        [.text "127.0.0.1:80", .text "\t[::0:0:1.2.3.4]:065535"] := rfl
    rw [Draft.IsRaw, given]
    simp [spelledOut, draftOf, lookup?]
  exact ⟨accepted, ofValue_toEntries rfl raw accepted⟩

end BurstLoad.Settings
