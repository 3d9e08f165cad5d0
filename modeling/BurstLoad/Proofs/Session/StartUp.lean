import BurstLoad.Proofs.Session.Order

/-! How a session starts up. It waits for its nodes, then connects to its target once, then opens
its listener, and only then begins its bursts; whatever fails or is cut off on the way, nothing of
what comes later has happened. -/

set_option autoImplicit false

namespace BurstLoad.Session

/-- What is so at every point of a session that began as `s`, however often it has tried to connect
to its target by then. -/
structure StartsInOrder (s : Session) (dials : Nat) (t : Session) : Prop where
  once : dials ≤ 1
  attempts : ∀ e, t.network.attemptsAt e =
    t.gate.attemptsAt e + if s.settings.target = e then dials else 0
  waits : ∀ node ∈ s.settings.nodes, ¬ t.network.HasAccepted node →
    dials = 0 ∧ t.currentPacer.status = .awaiting
  listens : t.inbox.running = true ∨ t.network.binds ≠ #[] →
    dials = 1 ∧ (∃ wire, s.targetAnswer t.gate = .ok wire) ∧ t.link?.isSome = true
  sends : ∀ run, t.stage = .pacing run → t.inbox.running = true
  unsent : ¬ t.network.HasBound → t.currentPacer = s.pacer ∧ t.written = [] ∧
    (∀ link ∈ t.link?, link.wire.writes = 0) ∧ ∀ run, t.stage ≠ .pacing run
  refused : ∀ fault, dials = 1 → s.targetAnswer t.gate = .error fault →
    t.inbox.running = false ∧ t.network.binds = #[] ∧ t.written = []

section Standing

variable {s t : Session} {dials : Nat}
  (standing : Standing s dials t.gate t.network t.inbox.bound t.pacer t.closedLink t.stage)

include standing

theorem running_of_pacing {run : Run} (pacing : t.stage = .pacing run) :
    t.inbox.running = true := by
  have place := standing.place
  rw [pacing] at place
  exact place.2.1

theorem hasAccepted_of_dialed (dialed : dials = 1) :
    ∀ node ∈ s.settings.nodes, t.network.HasAccepted node := by
  obtain ⟨isOpen, peers⟩ := standing.waited dialed
  intro node member
  rw [← peers] at member
  obtain ⟨p, known, rfl⟩ := List.mem_map.mp member
  exact standing.honest p known (isOpen p known)

/-- What binds the listener has a connection. -/
theorem isSome_link?_of_asked (asked : t.network.binds ≠ #[]) : t.link?.isSome = true := by
  have place := standing.place
  have dialed := (standing.listens asked).1
  unfold link?
  cases stage : t.stage <;> rw [stage] at place
  case fresh | gathering =>
    rw [place.1] at dialed
    cases dialed
  case dialing => exact absurd place.2.2 asked
  case connected | winding => rfl
  case pacing run =>
    obtain ⟨-, -, link, framed⟩ := place
    simp [framed]
  case done => exact place asked

theorem isIdle_of_unbound (unbound : ¬ t.network.HasBound) : ∀ link ∈ t.link?, link.IsIdle := by
  intro link member
  have place := standing.place
  have closed := (standing.unsent unbound).2 link
  unfold link? at member
  split at member
  · next connected =>
    rw [connected] at place
    cases member
    exact place.2.2
  · next pacing =>
    rw [pacing] at place
    exact absurd (standing.running place.2.1) unbound
  · next winding =>
    rw [winding] at place
    cases member
    exact place.2 unbound
  · exact closed member

theorem unsent_of_unbound (unbound : ¬ t.network.HasBound) :
    t.currentPacer = s.pacer ∧ t.written = [] ∧ (∀ link ∈ t.link?, link.wire.writes = 0) ∧
      ∀ run, t.stage ≠ .pacing run := by
  have idle := isIdle_of_unbound standing unbound
  have still (run : Run) : t.stage ≠ .pacing run := fun pacing =>
    unbound (standing.running (running_of_pacing standing pacing))
  refine ⟨?_, ?_, fun link member => (idle link member).writes, still⟩
  · unfold currentPacer
    split
    · next run pacing => exact absurd pacing (still run)
    · exact (standing.unsent unbound).1
  · unfold written taken
    split
    · next link opened =>
      rw [Network.Wire.taken, (idle link opened).written]
      rfl
    · rfl

end Standing

theorem startsInOrder_of_isOrdered {s t : Session} (awaiting : s.pacer.status = .awaiting)
    (ordered : IsOrdered s t) : ∃ dials, StartsInOrder s dials t := by
  obtain ⟨-, dials, standing⟩ := ordered
  refine ⟨dials, standing.once, standing.attempts, ?_, ?_, fun run => running_of_pacing standing,
    unsent_of_unbound standing, ?_⟩
  · intro node member refusing
    have none : dials = 0 := by
      have once := standing.once
      have waiting : dials ≠ 1 := fun dialed =>
        refusing (hasAccepted_of_dialed standing dialed node member)
      omega
    subst none
    have unbound : ¬ t.network.HasBound := fun bound => bound.asked standing.binds_eq
    exact ⟨rfl, by rw [(unsent_of_unbound standing unbound).1, awaiting]⟩
  · intro listening
    have asked : t.network.binds ≠ #[] := by
      obtain running | asked := listening
      · exact (standing.running running).asked
      · exact asked
    obtain ⟨dialed, answer⟩ := standing.listens asked
    exact ⟨dialed, answer, isSome_link?_of_asked standing asked⟩
  · intro fault dialed refused
    have none : t.network.binds = #[] := by
      apply Decidable.byContradiction
      intro asked
      obtain ⟨-, wire, answer⟩ := standing.listens asked
      rw [refused] at answer
      cases answer
    have unbound : ¬ t.network.HasBound := fun bound => bound.asked none
    exact ⟨Bool.eq_false_iff.mpr fun running => unbound (standing.running running), none,
      (unsent_of_unbound standing unbound).2.1⟩

/-- The order in which every session starts up, whatever comes to it. -/
theorem startsInOrder_of_reaches {settings : Settings} {counters : Payload.Counters}
    {receiver : Receiver} {plan : Endpoint → Nat → Network.AttemptPlan} {bindFault : Option Fault}
    {freePort : Int} {s t : Session} {stop : Bool} {maxBursts : Option Int}
    (built : ofSettings? settings counters receiver { plan, bindFault, freePort } = .ok s)
    (reached : machine.Reaches { s with stop, maxBursts } t) :
    ∃ dials, StartsInOrder s dials t := by
  obtain ⟨g, p, -, paced, same⟩ := eq_of_ofSettings? built
  have awaiting : s.pacer.status = .awaiting := by
    obtain ⟨pace, -, rfl⟩ := Pacer.eq_of_ofRate? paced
    rw [same]
  have ordered : IsOrdered s t := reached.invariant (isOrdered_start built stop maxBursts)
    (fun now _ here => isOrdered_act here now) fun now input _ here => isOrdered_take here now input
  exact startsInOrder_of_isOrdered awaiting ordered

/-- A node besides the target. -/
def otherNode : Endpoint :=
  ⟨"10.0.0.2", 9000⟩

/-- The node refuses its first connection. -/
def lateNode : Network where
  plan e k :=
    if e = otherNode && k == 0 then ⟨1, .error (.network "ConnectionRefusedError" "refused")⟩
    else {}

/-- The node accepts its second probe; then the target is tried, the listener bound and the first
burst sent. -/
theorem startsInOrder_lateNode : ∃ s t dials,
    ofSettings? { twoFillers with nodes := [otherNode] } ⟨7, 0, 0⟩ { verbose := false } lateNode =
        .ok s ∧
      ({ s with stop := false, maxBursts := none }.simulate [] 50 isOver).1.state = t ∧
      t.network.attempts.map Prod.snd = #[otherNode, otherNode, twoFillers.target] ∧
      t.network.binds = #[⟨"0.0.0.0", 9001⟩] ∧ t.currentPacer.stats.payloads = 2 ∧
      StartsInOrder s dials t := by
  have seconds (n : Int) (small : Decimal.roundTo53 n.natAbs < Nat.pow 2 1024) :
      ∃ x, Settings.seconds (.int n) = .ok x := by
    unfold Settings.seconds Decimal.ofInt?
    dsimp only
    rw [if_pos small]
    exact ⟨_, rfl⟩
  obtain ⟨delay, delays⟩ := seconds 10 (by decide +kernel)
  obtain ⟨duration, lasts⟩ := seconds 1000 (by decide +kernel)
  let s : Session := {
    settings := { twoFillers with nodes := [otherNode] }
    pacer := {
      rate := 2
      nominal := .ms 1000
      generator := ⟨false, 9, ⟨7, 0, 0⟩, by decide⟩ }
    gate := ⟨.ms 10, []⟩
    inbox := { host := "0.0.0.0", port := 9001, receiver := { verbose := false } }
    network := lateNode }
  have built : ofSettings? { twoFillers with nodes := [otherNode] } ⟨7, 0, 0⟩ { verbose := false }
      lateNode = .ok s := by
    unfold ofSettings?
    rw [show twoFillers.probeDelay = .int 10 from rfl,
      show twoFillers.burstDuration = .int 1000 from rfl, delays, lasts]
    rfl
  obtain ⟨dials, inOrder⟩ := startsInOrder_of_reaches built
    (simulate_reaches { s with stop := false, maxBursts := none } [] 50 isOver)
  exact ⟨s, _, dials, built, rfl, by decide +kernel, by decide +kernel, by decide +kernel, inOrder⟩

end BurstLoad.Session
