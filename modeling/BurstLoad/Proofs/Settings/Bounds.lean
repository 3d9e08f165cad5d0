import BurstLoad.Proofs.Settings.Fields

/-! What settled settings promise, field by field, and that a draft whose checks all pass has settings
that stand for it: no other failure can follow. -/

set_option autoImplicit false

namespace BurstLoad.Settings

namespace Field

/-- What a field holds that has passed its check. -/
def Holds (f : Field) (v : Value) : Prop :=
  match f with
  | target => ∃ e, v = .endpoint e
  | nodes => ∃ es : List Endpoint, v = .list (es.map .endpoint)
  | size => ∃ n, v = .int n ∧ minSize ≤ n ∧ n ≤ maxSize
  | rate => ∃ n, v = .int n ∧ 0 ≤ n
  | port => ∃ n, v = .int n ∧ 0 ≤ n ∧ n ≤ Endpoint.maxPort
  | burstDuration => sign? v = some .positive ∨ sign? v = some .unordered
  | probeDelay => ∃ s, sign? v = some s ∧ s ≠ .negative
  | isLocal | honest => ∃ b, v = .bool b

variable {v w : Value}

theorem holds_target (passed : target.settle v = (w, none)) : target.Holds w := by
  simp only [settle] at passed
  cases read : readEndpoint v with
  | ok e =>
    rw [read] at passed
    cases passed
    exact ⟨e, rfl⟩
  | error failure =>
    rw [read] at passed
    cases passed

theorem holds_nodes (passed : nodes.settle v = (w, none)) : nodes.Holds w := by
  simp only [settle] at passed
  split at passed
  · cases passed
    exact ⟨[], rfl⟩
  · cases given : elements? v with
    | none =>
      rw [given] at passed
      cases passed
    | some items =>
      simp only [given] at passed
      cases read : items.mapM readEndpoint with
      | ok es =>
        rw [read] at passed
        cases passed
        exact ⟨es, rfl⟩
      | error failure =>
        rw [read] at passed
        cases passed

theorem holds_size (passed : size.settle v = (w, none)) : size.Holds w := by
  simp only [settle] at passed
  cases read : readInteger? v with
  | none =>
    rw [read] at passed
    cases passed
  | some n =>
    simp only [read, Prod.mk.injEq] at passed
    obtain ⟨rfl, inside⟩ := passed
    refine ⟨n, rfl, ?_⟩
    split at inside
    · cases inside
    · split at inside
      · cases inside
      · omega

theorem holds_rate (passed : rate.settle v = (w, none)) : rate.Holds w := by
  simp only [settle] at passed
  cases read : readInteger? v with
  | none =>
    rw [read] at passed
    cases passed
  | some n =>
    simp only [read, Prod.mk.injEq] at passed
    obtain ⟨rfl, inside⟩ := passed
    refine ⟨n, rfl, ?_⟩
    split at inside
    · cases inside
    · omega

theorem holds_port (passed : port.settle v = (w, none)) : port.Holds w := by
  simp only [settle] at passed
  cases read : readInteger? v with
  | none =>
    rw [read] at passed
    cases passed
  | some n =>
    simp only [read] at passed
    split at passed
    · next inside =>
      cases passed
      simpa [Holds] using inside
    · cases passed

theorem holds_burstDuration (passed : burstDuration.settle v = (w, none)) :
    burstDuration.Holds w := by
  simp only [settle, Prod.mk.injEq] at passed
  obtain ⟨rfl, inside⟩ := passed
  cases order : sign? v with
  | none => simp [order] at inside
  | some s => cases s <;> simp [order, Holds] at inside ⊢

theorem holds_probeDelay (passed : probeDelay.settle v = (w, none)) : probeDelay.Holds w := by
  simp only [settle, Prod.mk.injEq] at passed
  obtain ⟨rfl, inside⟩ := passed
  cases order : sign? v with
  | none => simp [order] at inside
  | some s => cases s <;> simp [order, Holds] at inside ⊢

theorem holds_of_settle {f : Field} (passed : f.settle v = (w, none)) : f.Holds w := by
  cases f with
  | target => exact holds_target passed
  | nodes => exact holds_nodes passed
  | size => exact holds_size passed
  | rate => exact holds_rate passed
  | port => exact holds_port passed
  | burstDuration => exact holds_burstDuration passed
  | probeDelay => exact holds_probeDelay passed
  | isLocal | honest =>
    cases passed
    exact ⟨v.truthy, rfl⟩

end Field

theorem Draft.holds_of_settle {d last : Draft} (passed : d.settle = (last, none)) (f : Field) :
    f.Holds (last.get f) :=
  Field.holds_of_settle (settle_eq_none_iff.mp passed f)

/-! Drafts and settings. -/

theorem mapM_endpoint?_endpoints (es : List Endpoint) :
    (es.map Value.endpoint).mapM endpoint? = some es := by
  induction es with
  | nil => rfl
  | cons e rest ih => simp [List.mapM_cons, ih, endpoint?]

@[simp] theorem ofDraft?_toDraft (s : Settings) : ofDraft? s.toDraft = some s := by
  simp only [ofDraft?, toDraft, mapM_endpoint?_endpoints, Option.map_some]

/-- A draft that has passed all checks is the draft of some settings. -/
theorem exists_toDraft_of_settle {d last : Draft} (passed : d.settle = (last, none)) :
    ∃ s : Settings, last = s.toDraft := by
  have holds := Draft.holds_of_settle passed
  obtain ⟨target, targetEq⟩ := holds .target
  obtain ⟨nodes, nodesEq⟩ := holds .nodes
  obtain ⟨size, sizeEq, -⟩ := holds .size
  obtain ⟨rate, rateEq, -⟩ := holds .rate
  obtain ⟨port, portEq, -⟩ := holds .port
  obtain ⟨isLocal, isLocalEq⟩ := holds .isLocal
  obtain ⟨honest, honestEq⟩ := holds .honest
  refine ⟨⟨target, size, rate, port, nodes, isLocal, honest, last.burstDuration,
    last.probeDelay⟩, Draft.ext_get fun f => ?_⟩
  cases f <;> first | assumption | rfl

/-- Settings come out exactly if all checks pass, and then all fields are theirs. -/
theorem settle_eq_ok_iff {d : Draft} {s : Settings} :
    settle d = .ok s ↔ d.settle = (s.toDraft, none) := by
  unfold settle
  split
  · next last failure failed => simp [failed]
  · next last passed =>
    obtain ⟨t, rfl⟩ := exists_toDraft_of_settle passed
    rw [ofDraft?_toDraft, passed]
    constructor
    · intro same
      cases same
      rfl
    · intro same
      have again := congrArg (fun r : Draft × Option Failure => ofDraft? r.1) same
      simp only [ofDraft?_toDraft, Option.some.injEq] at again
      rw [again]

/-- The failure is that of the first check that fails. -/
theorem settle_eq_error_iff {d : Draft} {failure : Failure} :
    settle d = .error failure ↔ d.settle.2 = some failure := by
  unfold settle
  split
  · next last other failed => simp [failed]
  · next last passed =>
    obtain ⟨t, rfl⟩ := exists_toDraft_of_settle passed
    simp [passed]

section

variable {d : Draft} {s : Settings}

theorem holds_of_settle (settled : settle d = .ok s) (f : Field) : f.Holds (s.toDraft.get f) :=
  Draft.holds_of_settle (settle_eq_ok_iff.mp settled) f

/-- The size of settled settings is one that a frame can announce. -/
theorem size_of_settle (settled : settle d = .ok s) : minSize ≤ s.size ∧ s.size ≤ maxSize := by
  obtain ⟨n, same, low, high⟩ := holds_of_settle settled .size
  cases same
  exact ⟨low, high⟩

theorem rate_of_settle (settled : settle d = .ok s) : 0 ≤ s.rate := by
  obtain ⟨n, same, low⟩ := holds_of_settle settled .rate
  cases same
  exact low

theorem port_of_settle (settled : settle d = .ok s) : 0 ≤ s.port ∧ s.port ≤ Endpoint.maxPort := by
  obtain ⟨n, same, low, high⟩ := holds_of_settle settled .port
  cases same
  exact ⟨low, high⟩

end

end BurstLoad.Settings
