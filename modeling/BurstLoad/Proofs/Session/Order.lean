import BurstLoad.Proofs.Gate
import BurstLoad.Proofs.Inbox
import BurstLoad.Proofs.Pacer.Move
import BurstLoad.Proofs.Session.Transactions

/-! The order in which a session does what it does. It knows how often its nodes and its target were
tried, and whether its listener was bound; each stage stands for what was done before it, and every
step and every input keeps this so. -/

set_option autoImplicit false

namespace BurstLoad.Session

/-- How the network answers when the target is tried, after all that the probes tried. -/
def targetAnswer (s : Session) (gate : Gate) : Except Fault Network.WirePlan :=
  (s.network.plan s.settings.target (gate.attemptsAt s.settings.target)).result

/-- The stages of a session that never had a connection. -/
def isEarly (t : Session) : Bool :=
  match t.stage with
  | .fresh | .gathering | .dialing _ _ => true
  | _ => false

/-- Where a session stands that began as `s` and tried so often to connect to its target. -/
structure Standing (s : Session) (dials : Nat) (gate : Gate) (network : Network)
    (bound : Option Int) (pacer : Pacer) (closed : Option Link) (stage : Stage) : Prop where
  plan : network.plan = s.network.plan
  bindFault : network.bindFault = s.network.bindFault
  counted : network.IsCounted
  honest : gate.IsHonest network
  attempts : ∀ e,
    network.attemptsAt e = gate.attemptsAt e + if s.settings.target = e then dials else 0
  once : dials ≤ 1
  waited : dials = 1 → gate.IsOpen ∧ gate.probes.map Probe.peer = s.settings.nodes
  listens : network.binds ≠ #[] → dials = 1 ∧ ∃ wire, s.targetAnswer gate = .ok wire
  running : bound.isSome = true → network.HasBound
  unsent : ¬ network.HasBound → pacer = s.pacer ∧ ∀ link ∈ closed, link.IsIdle
  place : match stage with
    | .fresh => dials = 0 ∧ gate.probes = []
    | .gathering => dials = 0 ∧ gate.probes.map Probe.peer = s.settings.nodes
    | .dialing _ result => dials = 1 ∧ result = s.targetAnswer gate ∧ network.binds = #[]
    | .connected link => dials = 1 ∧ (∃ wire, s.targetAnswer gate = .ok wire) ∧ link.IsIdle
    | .pacing run => dials = 1 ∧ bound.isSome = true ∧ ∃ link, run.carrier = .framed link
    | .winding link _ => dials = 1 ∧ (¬ network.HasBound → link.IsIdle)
    | .done => network.binds ≠ #[] → closed.isSome = true

/-- The start of a session is kept in order. -/
def IsOrdered (s t : Session) : Prop :=
  t.settings = s.settings ∧
    ∃ dials, Standing s dials t.gate t.network t.inbox.bound t.pacer t.closedLink t.stage

section Step

variable {s t : Session}

theorem IsOrdered.standing {stage : Stage} (ordered : IsOrdered s t) (here : t.stage = stage) :
    t.settings = s.settings ∧
      ∃ dials, Standing s dials t.gate t.network t.inbox.bound t.pacer t.closedLink stage := by
  subst here
  exact ordered

/-- Before the target was tried nothing was bound. -/
theorem Standing.binds_eq {stage : Stage} {gate : Gate} {network : Network} {bound : Option Int}
    {pacer : Pacer} {closed : Option Link}
    (standing : Standing s 0 gate network bound pacer closed stage) : network.binds = #[] := by
  apply Decidable.byContradiction
  intro asked
  exact absurd (standing.listens asked).1 (by decide)

theorem binds_eq_of_isEarly (ordered : IsOrdered s t) (early : t.isEarly = true) :
    t.network.binds = #[] := by
  unfold isEarly at early
  split at early
  · next fresh =>
    obtain ⟨-, dials, standing⟩ := ordered.standing fresh
    obtain ⟨rfl, -⟩ := standing.place
    exact standing.binds_eq
  · next gathering =>
    obtain ⟨-, dials, standing⟩ := ordered.standing gathering
    obtain ⟨rfl, -⟩ := standing.place
    exact standing.binds_eq
  · next dialing =>
    obtain ⟨-, dials, standing⟩ := ordered.standing dialing
    exact standing.place.2.2
  · cases early

theorem isOrdered_finish (ordered : IsOrdered s t) (early : t.isEarly = true) (now : Time)
    (outcome : Outcome Unit) : IsOrdered s (t.finish now outcome) := by
  have none := binds_eq_of_isEarly ordered early
  obtain ⟨same, dials, standing⟩ := ordered
  exact ⟨same, dials, { standing with place := fun asked => absurd none asked }⟩

theorem isOrdered_wind {dials : Nat} {link : Link} {stage : Stage} (same : t.settings = s.settings)
    (standing : Standing s dials t.gate t.network t.inbox.bound t.pacer t.closedLink stage)
    (idle : ¬ t.network.HasBound → link.IsIdle) (now : Time) (cause : Outcome Unit) :
    IsOrdered s (t.wind now link cause).1 := by
  obtain ⟨outcome, wound⟩ := t.wind_fst now link cause
  rw [wound]
  refine ⟨same, dials, { standing with running := ?_, unsent := ?_, place := fun _ => rfl }⟩
  · dsimp only
    rw [t.inbox.bound_stop]
    intro running
    cases running
  · intro unbound
    refine ⟨(standing.unsent unbound).1, ?_⟩
    intro closed member
    cases member
    exact (idle unbound).close

/-- The target is tried when all nodes have answered, and its answer is the next of its plan. -/
theorem isOrdered_dial {stage : Stage} (same : t.settings = s.settings)
    (standing : Standing s 0 t.gate t.network t.inbox.bound t.pacer t.closedLink stage)
    (isOpen : t.gate.IsOpen) (peers : t.gate.probes.map Probe.peer = s.settings.nodes)
    (now : Time) : IsOrdered s (t.dial now) := by
  have grows := t.network.grows_attempt now t.settings.target
  have before (e : Endpoint) : t.network.attemptsAt e = t.gate.attemptsAt e := by
    have attempts := standing.attempts e
    rw [ite_self, Nat.add_zero] at attempts
    exact attempts
  have attempts (e : Endpoint) : (t.dial now).network.attemptsAt e =
      t.gate.attemptsAt e + if s.settings.target = e then 1 else 0 := by
    rw [← before, ← same]
    exact t.network.attemptsAt_attempt now t.settings.target e
  have answer : (t.network.plan t.settings.target (t.network.triesOf t.settings.target)).result =
      s.targetAnswer t.gate := by
    rw [standing.counted, before, targetAnswer, ← same, standing.plan]
  exact ⟨same, 1, { standing with
    counted := grows.counted standing.counted
    attempts
    once := Nat.le_refl 1
    waited := fun _ => ⟨isOpen, peers⟩
    listens := fun asked => absurd standing.binds_eq asked
    running := fun running => grows.hasBound_iff.mpr (standing.running running)
    unsent := fun unbound => standing.unsent fun bound => unbound (grows.hasBound_iff.mpr bound)
    place := ⟨rfl, answer, standing.binds_eq⟩ }⟩

theorem isOrdered_begin (fresh : t.stage = .fresh) (ordered : IsOrdered s t) (now : Time) :
    IsOrdered s (t.begin now).1 := by
  obtain ⟨same, dials, standing⟩ := ordered.standing fresh
  obtain ⟨rfl, empty⟩ := standing.place
  unfold begin
  dsimp only
  split
  · next none =>
    rw [List.isEmpty_iff] at none
    refine isOrdered_dial same standing ?_ ?_ now
    · intro p member
      rw [empty] at member
      cases member
    · rw [empty, ← same, none]
      rfl
  · -- The probes begin with no attempts, as many as the gate had before.
    have attempts (e : Endpoint) : t.network.attemptsAt e =
        (Gate.ofPeers t.settings.nodes t.gate.retry now).attemptsAt e +
          if s.settings.target = e then 0 else 0 := by
      have before := standing.attempts e
      rw [Gate.attemptsAt, empty] at before
      rw [Gate.attemptsAt_ofPeers]
      exact before
    have peers : (Gate.ofPeers t.settings.nodes t.gate.retry now).probes.map Probe.peer =
        s.settings.nodes := by
      rw [Gate.peers_ofPeers, same]
    exact ⟨same, 0, { standing with
      honest := Gate.isHonest_ofPeers t.settings.nodes t.gate.retry now t.network
      attempts
      waited := fun one => absurd one (by decide)
      listens := fun asked => absurd standing.binds_eq asked
      place := ⟨rfl, peers⟩ }⟩

theorem isOrdered_leaveGate {verdict : Except Fault Unit} (gathering : t.stage = .gathering)
    (settled : t.gate.verdict? = some verdict) (ordered : IsOrdered s t) (now : Time) :
    IsOrdered s (t.leaveGate now verdict).1 := by
  cases verdict with
  | error fault => exact isOrdered_finish ordered (by rw [isEarly, gathering]) now _
  | ok =>
    obtain ⟨same, dials, standing⟩ := ordered.standing gathering
    obtain ⟨rfl, peers⟩ := standing.place
    exact isOrdered_dial same standing (Gate.isOpen_of_verdict? settled) peers now

theorem isOrdered_answer {due : Option Time} {result : Except Fault Network.WirePlan}
    (dialing : t.stage = .dialing due result) (ordered : IsOrdered s t) (now : Time) :
    IsOrdered s (t.answer now result).1 := by
  cases result with
  | error fault => exact isOrdered_finish ordered (by rw [isEarly, dialing]) now _
  | ok wire =>
    obtain ⟨same, dials, standing⟩ := ordered.standing dialing
    obtain ⟨dialed, answer, -⟩ := standing.place
    exact ⟨same, dials, { standing with place := ⟨dialed, ⟨wire, answer.symm⟩, rfl, rfl⟩ }⟩

theorem isOrdered_listen {link : Link} (connected : t.stage = .connected link)
    (ordered : IsOrdered s t) : IsOrdered s (t.listen link).1 := by
  obtain ⟨same, dials, standing⟩ := ordered.standing connected
  obtain ⟨dialed, answer, idle⟩ := standing.place
  have asked : (t.network.bind ⟨t.inbox.host, t.inbox.port⟩).1.binds ≠ #[] := by
    simp [Network.bind]
  unfold listen
  cases fault? : t.network.bindFault with
  | some fault =>
    rw [t.inbox.start_of_fault fault?]
    have refused : ¬ t.network.HasBound := fun bound => nomatch fault?.symm.trans bound.granted
    exact ⟨same, dials, { standing with
      listens := fun _ => ⟨dialed, answer⟩
      running := fun running => absurd (standing.running running) refused
      unsent := fun _ => standing.unsent refused
      place := ⟨dialed, fun _ => idle⟩ }⟩
  | none =>
    rw [t.inbox.start_of_free fault?]
    have bound : (t.network.bind ⟨t.inbox.host, t.inbox.port⟩).1.HasBound := ⟨asked, fault?⟩
    exact ⟨same, dials, { standing with
      listens := fun _ => ⟨dialed, answer⟩
      running := fun _ => bound
      unsent := fun unbound => absurd bound unbound
      place := ⟨dialed, rfl, link, rfl⟩ }⟩

theorem isOrdered_leavePacing {run : Run} (pacing : t.stage = .pacing run)
    (ordered : IsOrdered s t) : IsOrdered s (t.leavePacing run) := by
  unfold leavePacing
  split
  · obtain ⟨same, dials, standing⟩ := ordered.standing pacing
    obtain ⟨dialed, running, -⟩ := standing.place
    have bound := standing.running running
    exact ⟨same, dials, { standing with
      unsent := fun unbound => absurd bound unbound
      place := ⟨dialed, fun unbound => absurd bound unbound⟩ }⟩
  · exact ordered

theorem isOrdered_actMain (ordered : IsOrdered s t) (now : Time) :
    IsOrdered s (t.actMain now).1 := by
  unfold actMain
  split
  · next fresh => exact isOrdered_begin fresh ordered now
  · next gathering =>
    split
    · next settled => exact isOrdered_leaveGate gathering settled ordered now
    · exact ordered
  · next dialing => exact isOrdered_answer dialing ordered now
  · next connected => exact isOrdered_listen connected ordered
  · next run pacing =>
    split
    · exact isOrdered_leavePacing pacing ordered
    · next going =>
      obtain ⟨same, dials, standing⟩ := ordered.standing pacing
      obtain ⟨dialed, running, framed⟩ := standing.place
      have move := Run.move_act (Bool.eq_false_iff.mpr going) now
      exact ⟨same, dials, { standing with place := ⟨dialed, running, move.framed framed⟩ }⟩
  · next link cause winding =>
    obtain ⟨same, dials, standing⟩ := ordered.standing winding
    exact isOrdered_wind same standing standing.place.2 now cause
  · exact ordered

theorem isOrdered_cancelGate (gathering : t.stage = .gathering) (ordered : IsOrdered s t) :
    IsOrdered s { t with gate := t.gate.cancel } := by
  obtain ⟨same, dials, standing⟩ := ordered.standing gathering
  obtain ⟨rfl, peers⟩ := standing.place
  have attempts (e : Endpoint) : t.network.attemptsAt e =
      t.gate.cancel.attemptsAt e + if s.settings.target = e then 0 else 0 := by
    rw [t.gate.attemptsAt_cancel]
    exact standing.attempts e
  refine ⟨same, 0, { standing with
    honest := standing.honest.cancel
    attempts
    waited := fun one => absurd one (by decide)
    listens := fun asked => absurd standing.binds_eq asked
    place := ?_ }⟩
  dsimp only
  rw [gathering]
  exact ⟨rfl, t.gate.peers_cancel.trans peers⟩

theorem isOrdered_cancel (ordered : IsOrdered s t) (now : Time) :
    IsOrdered s (t.cancel now).1 := by
  have quiet : IsOrdered s { t with cancelling := false } := ordered
  unfold cancel
  dsimp only
  split
  · next fresh => exact isOrdered_finish quiet (by rw [isEarly, fresh]) now .cancelled
  · next dialing => exact isOrdered_finish quiet (by rw [isEarly, dialing]) now .cancelled
  · next gathering =>
    exact isOrdered_finish (isOrdered_cancelGate gathering quiet) (by rw [isEarly, gathering]) now
      .cancelled
  · next link connected =>
    obtain ⟨same, dials, standing⟩ := quiet.standing connected
    exact isOrdered_wind same standing (fun _ => standing.place.2.2) now .cancelled
  · next link _ winding =>
    obtain ⟨same, dials, standing⟩ := quiet.standing winding
    exact isOrdered_wind same standing standing.place.2 now .cancelled
  · next run pacing =>
    unfold breakOff
    split
    · obtain ⟨same, dials, standing⟩ := quiet.standing pacing
      have bound := standing.running standing.place.2.1
      have paced : Standing s dials t.gate t.network t.inbox.bound run.pacer t.closedLink
          (.pacing run) :=
        { standing with unsent := fun unbound => absurd bound unbound }
      exact isOrdered_wind (t := { t with cancelling := false, pacer := run.pacer }) same paced
        (fun unbound => absurd bound unbound) now .cancelled
    · exact quiet
  · exact quiet

theorem isOrdered_actGate (ordered : IsOrdered s t) (now : Time) :
    IsOrdered s { t with
      gate := (t.gate.act now t.network).1, network := (t.gate.act now t.network).2.1 } := by
  obtain ⟨same, dials, standing⟩ := ordered
  by_cases dialed : dials = 1
  · rw [Gate.act_of_isOpen (standing.waited dialed).1]
    exact ⟨same, dials, standing⟩
  · have none : dials = 0 := by
      have once := standing.once
      omega
    subst none
    have step := t.gate.step_act now t.network
    have grows := step.grows
    have unasked := grows.binds.trans standing.binds_eq
    refine ⟨same, 0, {
      plan := grows.plan.trans standing.plan
      bindFault := grows.bindFault.trans standing.bindFault
      counted := grows.counted standing.counted
      honest := step.honest standing.honest
      attempts := ?_
      once := Nat.zero_le 1
      waited := fun one => absurd one (by decide)
      listens := fun asked => absurd unasked asked
      running := fun running => grows.hasBound_iff.mpr (standing.running running)
      unsent := fun unbound => standing.unsent fun bound => unbound (grows.hasBound_iff.mpr bound)
      place := ?_ }⟩
    · intro e
      have attempts := step.attempts e
      have before := standing.attempts e
      rw [ite_self] at before ⊢
      dsimp only
      omega
    · have place := standing.place
      dsimp only
      split at place
      · refine ⟨rfl, List.map_eq_nil_iff.mp (step.peers.trans ?_)⟩
        rw [place.2]
        rfl
      · exact ⟨rfl, step.peers.trans place.2⟩
      · exact absurd place.1 (by decide)
      · exact absurd place.1 (by decide)
      · exact absurd place.1 (by decide)
      · exact absurd place.1 (by decide)
      · exact fun asked => absurd unasked asked

theorem isOrdered_inbox {inbox : Inbox} (ordered : IsOrdered s t)
    (still : inbox.bound = t.inbox.bound) : IsOrdered s { t with inbox } := by
  obtain ⟨same, dials, standing⟩ := ordered
  refine ⟨same, dials, ?_⟩
  dsimp only
  rw [still]
  exact standing

theorem isOrdered_act (ordered : IsOrdered s t) (now : Time) : IsOrdered s (t.act now).1 := by
  unfold act
  split
  · exact isOrdered_cancel ordered now
  · split
    · exact isOrdered_inbox ordered t.inbox.bound_proceed
    · split
      · exact isOrdered_actMain ordered now
      · exact isOrdered_actGate ordered now

theorem isOrdered_requestStop (ordered : IsOrdered s t) : IsOrdered s t.requestStop := by
  unfold requestStop
  split
  · next run pacing =>
    obtain ⟨same, dials, standing⟩ := ordered.standing pacing
    exact ⟨same, dials, { standing with place := standing.place }⟩
  · exact ordered

theorem isOrdered_take (ordered : IsOrdered s t) (now : Time) (input : Input) :
    IsOrdered s (t.take now input).1 := by
  cases input with
  | stop | terminate => exact isOrdered_requestStop ordered
  | cancel =>
    unfold take requestCancel
    dsimp only
    split
    · exact ordered
    · exact isOrdered_inbox ordered (t.inbox.bound_proceedTimes t.inbox.woken.length)
  | connect name peer closeFault =>
    exact isOrdered_inbox ordered (t.inbox.bound_accept name peer closeFault)
  | deliver name event => exact isOrdered_inbox ordered (t.inbox.bound_deliver name event)
  | interrupt | observe => exact ordered

end Step

theorem isOrdered_start {settings : Settings} {counters : Payload.Counters} {receiver : Receiver}
    {plan : Endpoint → Nat → Network.AttemptPlan} {bindFault : Option Fault} {freePort : Int}
    {s : Session}
    (built : ofSettings? settings counters receiver { plan, bindFault, freePort } = .ok s)
    (stop : Bool) (maxBursts : Option Int) : IsOrdered s { s with stop, maxBursts } := by
  obtain ⟨g, p, -, -, rfl⟩ := eq_of_ofSettings? built
  refine ⟨rfl, 0, {
    plan := rfl
    bindFault := rfl
    counted := fun e => rfl
    honest := ?_
    attempts := fun e => ?_
    once := Nat.zero_le 1
    waited := fun one => absurd one (by decide)
    listens := fun asked => absurd rfl asked
    running := fun running => nomatch running
    unsent := fun _ => ⟨rfl, ?_⟩
    place := ⟨rfl, rfl⟩ }⟩
  · intro p member
    cases member
  · rw [ite_self]
    rfl
  · intro link member
    cases member

end BurstLoad.Session
