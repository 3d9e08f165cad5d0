import BurstLoad.Proofs.Endpoint
import BurstLoad.Proofs.Frame.Codec
import BurstLoad.Proofs.Payload
import BurstLoad.Proofs.Settings.Again
import Mathlib.Data.List.Forall2

/-! What settled settings promise to the parts of a session that are built of them, however often the
draft was settled before: canonical addresses, and transactions that fit into a frame. -/

set_option autoImplicit false

namespace BurstLoad

/-- A socket address whose host is the canonical text of an IP address, and whose port is one. -/
structure Endpoint.IsCanonical (e : Endpoint) : Prop where
  host : ∃ address, Address.Ip.read? e.host.toList = some address ∧
    String.ofList address.print = e.host
  port : 0 ≤ e.port ∧ e.port ≤ Endpoint.maxPort

theorem Endpoint.isCanonical_of_read? {s : List Char} {e : Endpoint}
    (read : Endpoint.read? s = some e) : e.IsCanonical := by
  obtain ⟨address, n, spelling, rfl⟩ := Endpoint.read?_eq_some_iff.mp read
  obtain ⟨host, literal, -⟩ := spelling.exists_literal
  refine ⟨⟨address, ?_, rfl⟩, Int.natCast_nonneg n, Int.ofNat_le.mpr spelling.small⟩
  rw [String.toList_ofList, Address.Ip.read?_print (Address.Ip.read?_eq_some_iff.mpr literal)]

namespace Settings

/-- The nodes that a draft gives, one after the other. -/
def Draft.givenNodes (d : Draft) : List Value :=
  if d.nodes.truthy then (elements? d.nodes).getD [] else []

/-- The addresses of a draft are still to be read: none of them is built already. -/
def Draft.IsRaw (d : Draft) : Prop :=
  ∀ v ∈ d.target :: d.givenNodes, ∀ e, v ≠ .endpoint e

/-- A text that reads as a socket address. -/
def Writes (v : Value) (e : Endpoint) : Prop :=
  ∃ s, v = .text s ∧ Endpoint.read? s.toList = some e

theorem writes_of_readEndpoint {v : Value} {e : Endpoint} (read : readEndpoint v = .ok e)
    (raw : ∀ built, v ≠ .endpoint built) : Writes v e := by
  unfold readEndpoint at read
  split at read
  · next built => exact absurd rfl (raw built)
  · next s =>
    split at read
    · next parsed =>
      cases read
      exact ⟨s, rfl, parsed⟩
    · cases read
  · cases read

theorem forall₂_of_mapM {α β ε : Type} {f : α → Except ε β} {xs : List α} {ys : List β}
    (read : xs.mapM f = .ok ys) : List.Forall₂ (fun x y => f x = .ok y) xs ys := by
  induction xs generalizing ys with
  | nil =>
    cases read
    exact .nil
  | cons x rest ih =>
    rw [List.mapM_cons] at read
    cases first : f x with
    | error e =>
      rw [first] at read
      cases read
    | ok y =>
      cases later : rest.mapM f with
      | error e =>
        rw [first, later] at read
        cases read
      | ok zs =>
        rw [first, later] at read
        cases read
        exact .cons first (ih later)

theorem forall₂_writes {items : List Value} {es : List Endpoint}
    (read : items.mapM readEndpoint = .ok es) (raw : ∀ v ∈ items, ∀ e, v ≠ .endpoint e) :
    List.Forall₂ Writes items es := by
  have pairs := forall₂_of_mapM read
  clear read
  induction pairs with
  | nil => exact .nil
  | cons first later ih =>
    rw [List.forall_mem_cons] at raw
    exact .cons (writes_of_readEndpoint first raw.1) (ih raw.2)

/-- The next transaction of a generator, whatever its counters, fits into a frame that announces its
size. -/
def FramesNext (g : Payload.Generator) (size : Int) : Prop :=
  ∃ frame, Frame.encode Frame.maxLength g.next.2.payload = .ok frame ∧
    Bytes.takeWord? frame = some (size.toNat, g.next.2.payload)

/-- What settings promise that were settled from a draft. -/
structure Promises (given : Draft) (s : Settings) : Prop where
  size : 8 ≤ s.size ∧ s.size ≤ 0xFFFFFFFF
  rate : 0 ≤ s.rate
  port : 0 ≤ s.port ∧ s.port ≤ 65535
  target : Writes given.target s.target
  nodes : List.Forall₂ Writes given.givenNodes s.nodes
  canonical : ∀ e ∈ s.target :: s.nodes, e.IsCanonical
  frames : ∀ counters, ∃ g, Payload.Generator.ofSize? s.honest s.size counters = .ok g ∧
    FramesNext g s.size

section

variable {d : Draft} {s : Settings}

theorem writes_target (raw : d.IsRaw) (settled : settle d = .ok s) : Writes d.target s.target := by
  have each := Draft.settle_eq_none_iff.mp (settle_eq_ok_iff.mp settled) .target
  simp only [Field.settle, Draft.get, toDraft] at each
  cases read : readEndpoint d.target with
  | error failure => simp [read] at each
  | ok e =>
    have same : e = s.target := by simpa [read] using each
    exact same ▸ writes_of_readEndpoint read (raw _ List.mem_cons_self)

theorem writes_nodes (raw : d.IsRaw) (settled : settle d = .ok s) :
    List.Forall₂ Writes d.givenNodes s.nodes := by
  have each := Draft.settle_eq_none_iff.mp (settle_eq_ok_iff.mp settled) .nodes
  simp only [Field.settle, Draft.get, toDraft] at each
  have given : ∀ v ∈ d.givenNodes, ∀ e, v ≠ .endpoint e :=
    fun v member => raw v (List.mem_cons_of_mem _ member)
  unfold Draft.givenNodes at given ⊢
  cases truth : d.nodes.truthy with
  | false =>
    have none : s.nodes = [] := by simpa [truth] using each
    rw [none]
    exact .nil
  | true =>
    cases elements : elements? d.nodes with
    | none => simp [truth, elements] at each
    | some items =>
      simp only [truth, elements] at each given ⊢
      cases read : items.mapM readEndpoint with
      | error failure => simp [read] at each
      | ok es =>
        have built : es.map Value.endpoint = s.nodes.map Value.endpoint := by
          simpa [read] using each
        have same : es = s.nodes :=
          (List.map_injective_iff.mpr fun a b same => Value.endpoint.inj same) built
        exact same ▸ forall₂_writes read given

theorem exists_ofSize? (settled : settle d = .ok s) (counters : Payload.Counters) :
    ∃ g, Payload.Generator.ofSize? s.honest s.size counters = .ok g := by
  have bounds := size_of_settle settled
  unfold minSize at bounds
  have enough : ¬s.size < Payload.headerSize := by
    unfold Payload.headerSize
    omega
  unfold Payload.Generator.ofSize?
  rw [dif_neg enough]
  exact ⟨_, rfl⟩

theorem framesNext_of_settle (settled : settle d = .ok s) {counters : Payload.Counters}
    {g : Payload.Generator} (sized : Payload.Generator.ofSize? s.honest s.size counters = .ok g) :
    FramesNext g s.size := by
  obtain ⟨low, high⟩ := size_of_settle settled
  obtain ⟨-, size, -⟩ := Payload.Generator.eq_of_ofSize? sized
  have length := g.length_next
  have short : g.next.2.payload.length < Bytes.wordCount := by
    unfold maxSize at high
    unfold Bytes.wordCount
    omega
  refine ⟨_, Frame.encode_maxLength short, ?_⟩
  rw [Frame.wrap, Bytes.takeWord?_ofWord_append, Nat.mod_eq_of_lt short, length]
  have announced : g.size = s.size.toNat := by
    omega
  rw [announced]

theorem isCanonical_of_writes {v : Value} {e : Endpoint} (writes : Writes v e) : e.IsCanonical := by
  obtain ⟨s, -, read⟩ := writes
  exact Endpoint.isCanonical_of_read? read

theorem isCanonical_of_forall₂ {vs : List Value} {es : List Endpoint}
    (writes : List.Forall₂ Writes vs es) : ∀ e ∈ es, e.IsCanonical := by
  induction writes with
  | nil => nofun
  | cons first later ih => exact List.forall_mem_cons.mpr ⟨isCanonical_of_writes first, ih⟩

/-- What settled settings promise, if their addresses were given as texts. -/
theorem promises_of_settle (raw : d.IsRaw) (settled : settle d = .ok s) : Promises d s where
  size := size_of_settle settled
  rate := rate_of_settle settled
  port := port_of_settle settled
  target := writes_target raw settled
  nodes := writes_nodes raw settled
  canonical := List.forall_mem_cons.mpr ⟨isCanonical_of_writes (writes_target raw settled),
    isCanonical_of_forall₂ (writes_nodes raw settled)⟩
  frames := fun counters => by
    obtain ⟨g, sized⟩ := exists_ofSize? settled counters
    exact ⟨g, sized, framesNext_of_settle settled sized⟩

end

/-- Whatever was set and settled before, fully or half-way: a draft that settles now has settings that
promise what they promise for the values that were last set. -/
theorem promises_of_afterRounds {d last : Draft} {rounds : List (List (String × Value))}
    {values : List (String × Value)} (raw : (d.assign (rounds.flatten ++ values)).IsRaw)
    (passed : ((d.afterRounds rounds).assign values).settle = (last, none)) :
    ∃ s : Settings, last = s.toDraft ∧ Promises (d.assign (rounds.flatten ++ values)) s := by
  obtain ⟨s, rfl⟩ := exists_toDraft_of_settle passed
  have alike := (d.alike_afterRounds rounds).assign values
  rw [← Draft.assign_append] at alike
  have settled : settle (d.assign (rounds.flatten ++ values)) = .ok s := by
    rw [← settle_of_alike alike]
    exact settle_eq_ok_iff.mpr passed
  exact ⟨s, rfl, promises_of_settle raw settled⟩

/-- A draft with too small a size and no port, and settings that it settles to once it is set right. -/
def faulty : Draft :=
  ⟨.text "127.0.0.1:9000", .text "7", .int 1, .int 70000, .list [.text "[0:0::1]:9001"], .bool false,
    .text "no", .int 1000, .int 10⟩

def righted : Settings :=
  ⟨⟨"127.0.0.1", 9000⟩, 8, 1, 0, [⟨"::1", 9001⟩], false, true, .int 1000, .int 10⟩

theorem promises_righted :
    ∃ s : Settings, righted.toDraft = s.toDraft ∧
      Promises (faulty.assign ([[]].flatten ++ [("size", .text "+8"), ("port", .int 0)])) s := by
  have raw : (faulty.assign ([[]].flatten ++ [("size", .text "+8"), ("port", .int 0)])).IsRaw := by
    have given : (faulty.assign ([[]].flatten ++ [("size", .text "+8"), ("port", .int 0)])).givenNodes =
        [.text "[0:0::1]:9001"] := rfl
    rw [Draft.IsRaw, given]
    simp [faulty, Draft.assign, Draft.set]
  have passed : ((faulty.afterRounds [[]]).assign [("size", .text "+8"), ("port", .int 0)]).settle =
      (righted.toDraft, none) := rfl
  exact promises_of_afterRounds raw passed

end Settings

end BurstLoad
