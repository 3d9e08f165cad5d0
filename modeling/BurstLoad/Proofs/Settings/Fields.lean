import BurstLoad.Settings.Basic
import Mathlib.Data.List.Basic

/-! A configuration by its fields. Each check looks at one field alone and changes no other, the last
check apart, which settles two fields. So a draft settles as far as its fields do, one after the
other. -/

set_option autoImplicit false

namespace BurstLoad.Settings

inductive Field where
  | target
  | nodes
  | size
  | rate
  | port
  | burstDuration
  | probeDelay
  | isLocal
  | honest
  deriving DecidableEq

namespace Field

/-- All fields, in the order in which they are settled. -/
def all : List Field :=
  [target, nodes, size, rate, port, burstDuration, probeDelay, isLocal, honest]

/-- The key under which a field is set. -/
def key : Field → String
  | target => "target"
  | nodes => "nodes"
  | size => "size"
  | rate => "rate"
  | port => "port"
  | burstDuration => "burst_duration_ms"
  | probeDelay => "probe_delay_ms"
  | isLocal => "local"
  | honest => "honest"

/-- What a field holds after its check, and why the check failed if it did. -/
def settle (f : Field) (v : Value) : Value × Option Failure :=
  match f with
  | target =>
    match readEndpoint v with
    | .ok e => (.endpoint e, none)
    | .error failure => (v, some failure)
  | nodes =>
    if !v.truthy then (.list [], none)
    else match elements? v with
      | none => (v, some (.noElements v))
      | some items =>
        match items.mapM readEndpoint with
        | .ok es => (.list (es.map .endpoint), none)
        | .error failure => (v, some failure)
  | size =>
    match readInteger? v with
    | none => (v, some (.rejected .sizeNotInteger))
    | some n =>
      (.int n, if n < minSize then some (.rejected .sizeTooSmall)
        else if n > maxSize then some (.rejected .sizeTooLarge) else none)
  | rate =>
    match readInteger? v with
    | none => (v, some (.rejected .rate))
    | some n => (.int n, if n < 0 then some (.rejected .rate) else none)
  | port =>
    match readInteger? v with
    | none => (v, some (.rejected .port))
    | some n =>
      if 0 ≤ n && n ≤ Endpoint.maxPort then (.int n, none) else (v, some (.rejected .port))
  | burstDuration =>
    (v, match sign? v with
      | none => some (.noOrder v .atMost)
      | some s => if s == .negative || s == .zero then some (.rejected .burstDuration) else none)
  | probeDelay =>
    (v, match sign? v with
      | none => some (.noOrder v .below)
      | some s => if s == .negative then some (.rejected .probeDelay) else none)
  | isLocal | honest => (.bool v.truthy, none)

theorem mem_all (f : Field) : f ∈ all := by
  cases f <;> decide

theorem nodup_all : all.Nodup := by
  decide

end Field

namespace Draft

def get (d : Draft) : Field → Value
  | .target => d.target
  | .nodes => d.nodes
  | .size => d.size
  | .rate => d.rate
  | .port => d.port
  | .burstDuration => d.burstDuration
  | .probeDelay => d.probeDelay
  | .isLocal => d.isLocal
  | .honest => d.honest

def put (d : Draft) (f : Field) (v : Value) : Draft :=
  match f with
  | .target => { d with target := v }
  | .nodes => { d with nodes := v }
  | .size => { d with size := v }
  | .rate => { d with rate := v }
  | .port => { d with port := v }
  | .burstDuration => { d with burstDuration := v }
  | .probeDelay => { d with probeDelay := v }
  | .isLocal => { d with isLocal := v }
  | .honest => { d with honest := v }

variable (d : Draft) (f : Field) (v : Value)

@[simp] theorem get_put_same : (d.put f v).get f = v := by
  cases f <;> rfl

@[simp] theorem get_put_of_ne {f g : Field} (other : g ≠ f) : (d.put f v).get g = d.get g := by
  cases f <;> cases g <;> first | rfl | contradiction

@[simp] theorem put_get : d.put f (d.get f) = d := by
  cases f <;> rfl

@[simp] theorem put_put (w : Value) : (d.put f v).put f w = d.put f w := by
  cases f <;> rfl

/-- Drafts with the same fields are the same. -/
theorem ext_get {d e : Draft} (same : ∀ f, d.get f = e.get f) : d = e := by
  obtain ⟨⟩ := d
  obtain ⟨⟩ := e
  simp only [mk.injEq]
  exact ⟨same .target, same .size, same .rate, same .port, same .nodes, same .isLocal,
    same .honest, same .burstDuration, same .probeDelay⟩

/-- Setting the value under a key sets the field with this key, if there is one. -/
theorem get_set (key : String) : (d.set key v).get f = if f.key = key then v else d.get f := by
  by_cases same : f.key = key
  · subst same
    rw [if_pos rfl]
    cases f <;> rfl
  · rw [if_neg same]
    unfold set
    split <;> cases f <;> first | rfl | exact absurd rfl same

end Draft

/-! The checks, one field after the other. -/

/-- The check of one field. -/
def Field.check (f : Field) : Check := fun d =>
  (d.put f (f.settle (d.get f)).1, (f.settle (d.get f)).2)

theorem checkTarget_eq : checkTarget = Field.target.check := by
  funext d
  simp only [checkTarget, Field.check, Field.settle, Draft.get]
  cases readEndpoint d.target <;> rfl

theorem checkNodes_eq : checkNodes = Field.nodes.check := by
  funext d
  dsimp only [checkNodes, Field.check, Field.settle, Draft.get]
  cases d.nodes.truthy with
  | false => rfl
  | true =>
    cases elements? d.nodes with
    | none => rfl
    | some items =>
      simp only [Bool.not_true, Bool.false_eq_true, if_false]
      cases items.mapM readEndpoint <;> rfl

theorem checkSize_eq : checkSize = Field.size.check := by
  funext d
  simp only [checkSize, Field.check, Field.settle, Draft.get]
  cases readInteger? d.size with
  | none => rfl
  | some n =>
    dsimp only
    split
    · rfl
    · split <;> rfl

theorem checkRate_eq : checkRate = Field.rate.check := by
  funext d
  simp only [checkRate, Field.check, Field.settle, Draft.get]
  cases readInteger? d.rate with
  | none => rfl
  | some n =>
    dsimp only
    split <;> rfl

theorem checkPort_eq : checkPort = Field.port.check := by
  funext d
  simp only [checkPort, Field.check, Field.settle, Draft.get]
  cases readInteger? d.port with
  | none => rfl
  | some n =>
    dsimp only
    split <;> rfl

theorem checkBurstDuration_eq : checkBurstDuration = Field.burstDuration.check := by
  funext d
  simp only [checkBurstDuration, Field.check, Field.settle, Draft.get]
  cases sign? d.burstDuration with
  | none => rfl
  | some s =>
    dsimp only
    split <;> rfl

theorem checkProbeDelay_eq : checkProbeDelay = Field.probeDelay.check := by
  funext d
  simp only [checkProbeDelay, Field.check, Field.settle, Draft.get]
  cases sign? d.probeDelay with
  | none => rfl
  | some s =>
    dsimp only
    split <;> rfl

/-- Settling checks all fields in their order. -/
theorem settle_eq_runChecks (d : Draft) : d.settle = runChecks (Field.all.map Field.check) d := by
  simp only [Draft.settle, checks, checkTarget_eq, checkNodes_eq, checkSize_eq, checkRate_eq,
    checkPort_eq, checkBurstDuration_eq, checkProbeDelay_eq, Field.all, List.map_cons, List.map_nil,
    runChecks]
  rfl

/-! What a row of checks does to the fields. -/

section

variable {f : Field} {fields : List Field} {d : Draft}

theorem runChecks_of_passed {rest : List Check} (passed : (f.settle (d.get f)).2 = none) :
    runChecks (f.check :: rest) d = runChecks rest (d.put f (f.settle (d.get f)).1) := by
  rw [runChecks, Field.check, passed]

theorem runChecks_of_failed {rest : List Check} {failure : Failure}
    (failed : (f.settle (d.get f)).2 = some failure) :
    runChecks (f.check :: rest) d = (d.put f (f.settle (d.get f)).1, some failure) := by
  rw [runChecks, Field.check, failed]

theorem get_runChecks_of_not_mem (absent : f ∉ fields) :
    (runChecks (fields.map Field.check) d).1.get f = d.get f := by
  induction fields generalizing d with
  | nil => rfl
  | cons g rest ih =>
    simp only [List.mem_cons, not_or] at absent
    cases outcome : (g.settle (d.get g)).2 with
    | some failure => simp [runChecks_of_failed outcome, absent.1]
    | none => simp [runChecks_of_passed outcome, ih absent.2, absent.1]

/-- The first field that fails on its own is the one that the row fails at. -/
theorem outcome_runChecks (distinct : fields.Nodup) :
    (runChecks (fields.map Field.check) d).2 =
      fields.findSome? fun f => (f.settle (d.get f)).2 := by
  induction fields generalizing d with
  | nil => rfl
  | cons f rest ih =>
    obtain ⟨absent, distinct⟩ := List.nodup_cons.mp distinct
    cases outcome : (f.settle (d.get f)).2 with
    | some failure => simp [runChecks_of_failed outcome, outcome]
    | none =>
      rw [List.map_cons, runChecks_of_passed outcome, ih distinct, List.findSome?_cons, outcome,
        ← List.head?_filterMap, ← List.head?_filterMap]
      -- The fields that follow still hold what they held.
      congr 1
      apply List.filterMap_congr
      intro g member
      have other : g ≠ f := fun same => absent (same ▸ member)
      rw [Draft.get_put_of_ne d _ other]

/-- A field holds what it held, or what it settles to. -/
theorem get_runChecks (distinct : fields.Nodup) (f : Field) :
    (runChecks (fields.map Field.check) d).1.get f = d.get f ∨
      (runChecks (fields.map Field.check) d).1.get f = (f.settle (d.get f)).1 := by
  induction fields generalizing d with
  | nil => exact .inl rfl
  | cons g rest ih =>
    obtain ⟨absent, distinct⟩ := List.nodup_cons.mp distinct
    by_cases same : f = g
    · subst same
      right
      cases outcome : (f.settle (d.get f)).2 with
      | some failure => simp [runChecks_of_failed outcome]
      | none => simp [runChecks_of_passed outcome, get_runChecks_of_not_mem absent]
    · cases outcome : (g.settle (d.get g)).2 with
      | some failure => simp [runChecks_of_failed outcome, same]
      | none =>
        rw [List.map_cons, runChecks_of_passed outcome]
        simpa [same] using ih (d := d.put g (g.settle (d.get g)).1) distinct

/-- If no check fails then every field holds what it settles to. -/
theorem get_runChecks_of_none (distinct : fields.Nodup)
    (passed : (runChecks (fields.map Field.check) d).2 = none) (member : f ∈ fields) :
    (runChecks (fields.map Field.check) d).1.get f = (f.settle (d.get f)).1 := by
  induction fields generalizing d with
  | nil => cases member
  | cons g rest ih =>
    obtain ⟨absent, distinct⟩ := List.nodup_cons.mp distinct
    cases outcome : (g.settle (d.get g)).2 with
    | some failure =>
      rw [List.map_cons, runChecks_of_failed outcome] at passed
      cases passed
    | none =>
      rw [List.map_cons, runChecks_of_passed outcome] at passed ⊢
      by_cases same : f = g
      · subst same
        rw [get_runChecks_of_not_mem absent, Draft.get_put_same]
      · have later := ih distinct passed ((List.mem_cons.mp member).resolve_left same)
        rwa [Draft.get_put_of_ne d _ same] at later

end

/-! What settling does to the fields. -/

namespace Draft

variable (d : Draft)

theorem settle_snd : d.settle.2 = Field.all.findSome? fun f => (f.settle (d.get f)).2 := by
  rw [settle_eq_runChecks, outcome_runChecks Field.nodup_all]

theorem get_settle (f : Field) :
    d.settle.1.get f = d.get f ∨ d.settle.1.get f = (f.settle (d.get f)).1 := by
  rw [settle_eq_runChecks]
  exact get_runChecks Field.nodup_all f

/-- A draft settles if and only if each field does on its own, and then to what the fields settle to. -/
theorem settle_eq_none_iff {d last : Draft} :
    d.settle = (last, none) ↔ ∀ f, f.settle (d.get f) = (last.get f, none) := by
  constructor
  · intro settled f
    have passed : d.settle.2 = none := by rw [settled]
    have value : d.settle.1.get f = (f.settle (d.get f)).1 := by
      rw [settle_eq_runChecks] at passed ⊢
      exact get_runChecks_of_none Field.nodup_all passed f.mem_all
    rw [settle_snd, List.findSome?_eq_none_iff] at passed
    rw [settled] at value
    exact Prod.ext value.symm (passed f f.mem_all)
  · intro each
    have passed : d.settle.2 = none := by
      rw [settle_snd, List.findSome?_eq_none_iff]
      intro f _
      rw [each f]
    refine Prod.ext (ext_get fun f => ?_) passed
    rw [settle_eq_runChecks] at passed ⊢
    rw [get_runChecks_of_none Field.nodup_all passed f.mem_all, each f]

end Draft

end BurstLoad.Settings
