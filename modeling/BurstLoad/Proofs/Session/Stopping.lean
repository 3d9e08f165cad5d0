import BurstLoad.Proofs.Pacer.Stopping
import BurstLoad.Proofs.Record
import BurstLoad.Proofs.Session.Move
import BurstLoad.Proofs.Session.StartUp
import BurstLoad.Proofs.Session.TearDown

/-! What a stop request keeps a session from. No burst begins any more, whatever the session was at. The
probes, the target's connection and the listener know nothing of the request: as long as the session
starts up it goes on as if there had been none. -/

set_option autoImplicit false

namespace BurstLoad

namespace Session

/-- The stages before the bursts. -/
def isStartingUp (s : Session) : Bool :=
  match s.stage with
  | .fresh | .gathering | .dialing _ _ | .connected _ => true
  | _ => false

/-- The stages from the connection to the target on, up to the end. -/
def hasDialed (s : Session) : Bool :=
  match s.stage with
  | .dialing _ _ | .connected _ | .pacing _ | .winding _ _ => true
  | _ => false

/-- A burst is under way. -/
def isInBurst (s : Session) : Bool :=
  match s.stage with
  | .pacing run =>
    match run.phase with
    | .sending _ _ | .inFlight _ _ _ _ => true
    | _ => false
  | _ => false

variable {s t u : Session}

/-! Nothing begins after a stop request. -/

/-- A session that was asked to stop, and so were its bursts. -/
structure IsAsked (s : Session) : Prop where
  stop : s.stop = true
  run : ∀ run, s.stage = .pacing run → run.stop = true

theorem isAsked_requestStop (s : Session) : s.requestStop.IsAsked := by
  unfold requestStop
  split
  · next run pacing =>
    refine ⟨rfl, fun run same => ?_⟩
    cases same
    rfl
  · next other => exact ⟨rfl, fun run pacing => absurd pacing (other run)⟩

theorem IsAsked.act (asked : s.IsAsked) (now : Time) : (s.act now).1.IsAsked := by
  have move := s.move_act now
  generalize (s.act now).1 = next at move
  have wound (u : Session) (link : Link) (cause : Outcome Unit) (stop : u.stop = true) :
      (u.wind now link cause).1.IsAsked := by
    obtain ⟨outcome, same⟩ := u.wind_fst now link cause
    rw [same]
    exact ⟨stop, fun run pacing => by cases pacing⟩
  cases move with
  | cancelLink | cancelRun | wind => exact wound _ _ _ asked.stop
  | pace own pacing going =>
    refine ⟨asked.stop, fun run same => ?_⟩
    cases same
    exact (Run.move_act going now).stop (asked.run _ pacing)
  | listen =>
    refine ⟨asked.stop, fun run same => ?_⟩
    cases same
    exact asked.stop
  | cancelNothing | turn | probe | stay => exact ⟨asked.stop, asked.run⟩
  | cancelEarly | cancelGate | gather | dial | giveUp | refuse | connect | bindFail | leave =>
    exact ⟨asked.stop, fun run pacing => by cases pacing⟩

theorem IsAsked.take (asked : s.IsAsked) (now : Time) (input : Input) :
    (s.take now input).1.IsAsked := by
  obtain same | ⟨_, _, _, same⟩ := s.take_eq now input
  · rw [same]
    exact s.isAsked_requestStop
  · rw [same]
    exact ⟨asked.stop, asked.run⟩

theorem isAsked_of_reaches (asked : s.IsAsked) (reached : machine.Reaches s t) : t.IsAsked :=
  reached.invariant asked (fun now _ here => here.act now) fun now input _ here => here.take now input

/-- A session that was asked to stop begins no burst. -/
theorem IsAsked.isInBurst_happen (asked : s.IsAsked) (idle : s.isInBurst = false)
    (event : Machine.Event Input) : (machine.happen event s).1.isInBurst = false := by
  cases event with
  | take now input =>
    change (s.take now input).1.isInBurst = false
    obtain same | ⟨_, _, _, same⟩ := s.take_eq now input
    · rw [same]
      unfold requestStop
      split
      · next run pacing =>
        unfold isInBurst at idle ⊢
        rw [pacing] at idle
        exact idle
      · exact idle
    · rw [same]
      exact idle
  | act now =>
    change (s.act now).1.isInBurst = false
    have move := s.move_act now
    generalize (s.act now).1 = next at move
    cases move with
    | cancelLink | cancelRun | wind => simp [isInBurst, stage_wind]
    | pace own pacing going =>
      have stop := asked.run _ pacing
      have paced := Run.move_act going now
      generalize (Run.act now _).1 = after at paced
      unfold isInBurst at idle ⊢
      rw [pacing] at idle
      dsimp only at idle ⊢
      cases paced with
      | leave | relapse | object | suffice | rest | look | fail | breakOff => rfl
      | begin _ free => simp [stop] at free
      | launch sending => simp [sending] at idle
      | land underWay => simp [underWay] at idle
    | listen => rfl
    | cancelNothing | turn | probe | stay => exact idle
    | cancelEarly | cancelGate | gather | dial | giveUp | refuse | connect | bindFail | leave => rfl

/-! Nothing is tried again. -/

/-- What is left of a session that has tried to connect to its target, in a session that it comes to. -/
structure HasLeft (s t : Session) : Prop where
  isOpen : t.gate.IsOpen
  past : t.stage ≠ .fresh ∧ t.stage ≠ .gathering
  attempts : t.network.attempts = s.network.attempts
  binds : s.isStartingUp = false → t.isStartingUp = false ∧ t.network.binds = s.network.binds

theorem HasLeft.stopped (left : HasLeft s t) : HasLeft s t.requestStop := by
  unfold requestStop
  split
  · next run pacing =>
    refine ⟨left.isOpen, ⟨nofun, nofun⟩, left.attempts, fun late => ⟨rfl, (left.binds late).2⟩⟩
  · exact ⟨left.isOpen, left.past, left.attempts, left.binds⟩

theorem HasLeft.take (left : HasLeft s t) (now : Time) (input : Input) :
    HasLeft s (t.take now input).1 := by
  obtain same | ⟨_, _, _, same⟩ := t.take_eq now input
  · rw [same]
    exact left.stopped
  · rw [same]
    exact ⟨left.isOpen, left.past, left.attempts, left.binds⟩

theorem HasLeft.act (left : HasLeft s t) (now : Time) : HasLeft s (t.act now).1 := by
  obtain ⟨isOpen, ⟨begun, gathered⟩, attempts, binds⟩ := left
  have move := t.move_act now
  generalize (t.act now).1 = next at move
  have wound (u : Session) (link : Link) (cause : Outcome Unit) (same : u.gate = t.gate)
      (still : u.network = t.network) : HasLeft s (u.wind now link cause).1 := by
    obtain ⟨outcome, ended⟩ := u.wind_fst now link cause
    rw [ended]
    refine ⟨same ▸ isOpen, ⟨nofun, nofun⟩, still ▸ attempts, fun late => ⟨rfl, ?_⟩⟩
    exact still ▸ (binds late).2
  -- The target was tried, so that the main activity has come past the gate.
  have late (link : Link) (connected : t.stage = .connected link) : s.isStartingUp ≠ false := by
    intro late
    simpa [isStartingUp, connected] using (binds late).1
  cases move with
  | cancelEarly cancelling early =>
    exact ⟨isOpen, ⟨nofun, nofun⟩, attempts, fun late => ⟨rfl, (binds late).2⟩⟩
  | cancelGate _ gathering => exact absurd gathering gathered
  | cancelLink | wind => exact wound _ _ _ rfl rfl
  | cancelRun => exact wound _ _ _ rfl rfl
  | cancelNothing | turn => exact ⟨isOpen, ⟨begun, gathered⟩, attempts, binds⟩
  | stay => exact ⟨isOpen, ⟨begun, gathered⟩, attempts, binds⟩
  | probe =>
    rw [Gate.act_of_isOpen isOpen]
    exact ⟨isOpen, ⟨begun, gathered⟩, attempts, binds⟩
  | gather _ fresh => exact absurd fresh begun
  | dial _ early =>
    obtain ⟨fresh, -⟩ | ⟨gathering, -⟩ := early
    · exact absurd fresh begun
    · exact absurd gathering gathered
  | giveUp _ gathering => exact absurd gathering gathered
  | refuse => exact ⟨isOpen, ⟨nofun, nofun⟩, attempts, fun late => ⟨rfl, (binds late).2⟩⟩
  | connect _ dialing =>
    refine ⟨isOpen, ⟨nofun, nofun⟩, attempts, fun late => ?_⟩
    simpa [isStartingUp, dialing] using (binds late).1
  | bindFail _ connected =>
    exact ⟨isOpen, ⟨nofun, nofun⟩, attempts, fun ended => absurd ended (late _ connected)⟩
  | listen _ connected =>
    exact ⟨isOpen, ⟨nofun, nofun⟩, attempts, fun ended => absurd ended (late _ connected)⟩
  | pace | leave => exact ⟨isOpen, ⟨nofun, nofun⟩, attempts, fun late => ⟨rfl, (binds late).2⟩⟩

theorem hasLeft_of_reaches (left : HasLeft s t) (reached : machine.Reaches t u) : HasLeft s u :=
  reached.invariant left (fun now _ here => here.act now) fun now input _ here => here.take now input

/-! As long as a session starts up, a stop request makes no difference but to what it holds of it. -/

/-- What an act or an input came to, with a stop request noted. -/
def noted (result : Session × List Notice) : Session × List Notice :=
  (result.1.requestStop, result.2)

theorem requestStop_eq (idle : ∀ run, s.stage ≠ .pacing run) : s.requestStop = { s with stop := true } := by
  unfold requestStop
  split
  · next run pacing => exact absurd pacing (idle run)
  · rfl

theorem noted_eq (idle : ∀ run, s.stage ≠ .pacing run) (notices : List Notice) :
    noted (s, notices) = ({ s with stop := true }, notices) := by
  rw [noted, requestStop_eq idle]

theorem not_pacing_of_isStartingUp (early : s.isStartingUp = true) (run : Run) :
    s.stage ≠ .pacing run := by
  intro pacing
  simp [isStartingUp, pacing] at early

theorem wind_asked (s : Session) (now : Time) (link : Link) (cause : Outcome Unit) :
    { s with stop := true }.wind now link cause = noted (s.wind now link cause) := by
  unfold wind
  dsimp only
  split
  · rfl
  · split <;> rfl
  · rfl

theorem cancel_asked (early : s.isStartingUp = true) (now : Time) :
    { s with stop := true }.cancel now = noted (s.cancel now) := by
  unfold isStartingUp at early
  unfold cancel
  dsimp only
  cases stage : s.stage <;> simp only [stage] at early ⊢
  case fresh | gathering | dialing => rfl
  case connected link => exact wind_asked { s with cancelling := false } now link .cancelled
  case pacing | winding | done => cases early

theorem listen_asked (s : Session) (link : Link) :
    { s with stop := true }.listen link = noted (s.listen link) := by
  unfold listen
  dsimp only
  cases fault? : s.network.bindFault with
  | some fault =>
    rw [s.inbox.start_of_fault fault?]
    rfl
  | none =>
    rw [s.inbox.start_of_free fault?]
    rfl

theorem actMain_asked (early : s.isStartingUp = true) (now : Time) :
    { s with stop := true }.actMain now = noted (s.actMain now) := by
  have idle := not_pacing_of_isStartingUp early
  unfold isStartingUp at early
  unfold actMain
  dsimp only
  cases stage : s.stage <;> simp only [stage] at early ⊢
  case fresh =>
    unfold begin
    dsimp only
    split <;> rfl
  case gathering =>
    split
    · next verdict _ => cases verdict <;> rfl
    · rw [noted_eq idle, ← stage]
  case dialing due result => cases result <;> rfl
  case connected link => exact s.listen_asked link
  case pacing | winding | done => cases early

theorem act_asked (early : s.isStartingUp = true) (now : Time) :
    s.requestStop.act now = noted (s.act now) := by
  have idle := not_pacing_of_isStartingUp early
  have main : { s with stop := true }.mainWake = s.mainWake := rfl
  have under : { s with stop := true }.isUnderWay now = s.isUnderWay now := rfl
  rw [requestStop_eq idle]
  unfold act
  rw [main, under]
  dsimp only
  split
  · exact cancel_asked early now
  · split
    · rw [noted_eq]
      exact idle
    · split
      · exact actMain_asked early now
      · rw [noted_eq]
        exact idle

theorem take_asked (early : s.isStartingUp = true) (now : Time) (input : Input) :
    s.requestStop.take now input = noted (s.take now input) := by
  have idle := not_pacing_of_isStartingUp early
  have waits : s.isStopping = false := by
    unfold isStopping
    split
    · next run pacing => exact absurd pacing (idle run)
    · rfl
  cases input with
  | stop | terminate => rfl
  | cancel =>
    have same : { s with stop := true }.isStopping = false := waits
    unfold take requestCancel
    dsimp only
    rw [requestStop_eq idle, same, waits]
    simp only [Bool.false_eq_true, if_false]
    rw [noted_eq]
    exact idle
  | interrupt | connect | deliver =>
    unfold take
    dsimp only
    rw [requestStop_eq idle, noted_eq]
    exact idle
  | observe =>
    have pacer : { s with stop := true }.currentPacer = s.currentPacer := rfl
    unfold take
    dsimp only
    rw [requestStop_eq idle, pacer, noted_eq]
    exact idle

theorem happen_asked (early : s.isStartingUp = true) (event : Machine.Event Input) :
    machine.happen event s.requestStop = noted (machine.happen event s) := by
  cases event with
  | act now => exact act_asked early now
  | take now input => exact take_asked early now input

/-- A session does not start up again. -/
theorem isStartingUp_of_happen {event : Machine.Event Input}
    (early : (machine.happen event s).1.isStartingUp = true) : s.isStartingUp = true := by
  cases event with
  | act now =>
    change (s.act now).1.isStartingUp = true at early
    have move := s.move_act now
    generalize (s.act now).1 = next at move early
    cases move with
    | cancelLink | cancelRun | wind => simp [isStartingUp, stage_wind] at early
    | cancelNothing | turn | probe | stay => exact early
    | gather _ fresh => simp [isStartingUp, fresh]
    | dial _ gathered =>
      obtain ⟨fresh, -⟩ | ⟨gathering, -⟩ := gathered
      · simp [isStartingUp, fresh]
      · simp [isStartingUp, gathering]
    | connect _ dialing => simp [isStartingUp, dialing]
    | cancelEarly | cancelGate | giveUp | refuse | bindFail | listen | pace | leave => cases early
  | take now input =>
    change (s.take now input).1.isStartingUp = true at early
    obtain same | ⟨_, _, _, same⟩ := s.take_eq now input
    · rw [same] at early
      unfold requestStop at early
      split at early
      · cases early
      · exact early
    · rw [same] at early
      exact early

theorem isStartingUp_of_follow {events : List (Machine.Event Input)}
    (early : (machine.follow events s).1.isStartingUp = true) : s.isStartingUp = true := by
  induction events generalizing s with
  | nil => exact early
  | cons event rest ih => exact isStartingUp_of_happen (ih early)

/-- Up to the first thing that happens after the start, all happens as without a stop request. -/
theorem follow_asked {events : List (Machine.Event Input)}
    (early : (machine.follow events s).1.isStartingUp = true) (last : Machine.Event Input) :
    machine.follow (events ++ [last]) s.requestStop = noted (machine.follow (events ++ [last]) s) := by
  induction events generalizing s with
  | nil =>
    have here : s.isStartingUp = true := early
    rw [List.nil_append, Machine.follow_cons, Machine.follow_cons, happen_asked here]
    rfl
  | cons event rest ih =>
    have before := isStartingUp_of_happen (isStartingUp_of_follow early)
    have same : machine.follow (rest ++ [last]) (machine.happen event s).1.requestStop =
        noted (machine.follow (rest ++ [last]) (machine.happen event s).1) := ih early
    rw [List.cons_append, Machine.follow_cons, Machine.follow_cons, happen_asked before]
    simp only [noted] at same ⊢
    rw [same]

theorem wake_requestStop (early : s.isStartingUp = true) : s.requestStop.wake = s.wake := by
  rw [requestStop_eq (not_pacing_of_isStartingUp early)]
  rfl

/-- What a stop request comes to for a session: what it keeps the session from, and what it does not. -/
structure HeedsStop (s : Session) : Prop where
  /-- No burst begins after the request. -/
  bursts : ∀ t, machine.Reaches s.requestStop t → t.isInBurst = false →
    ∀ event, (machine.happen event t).1.isInBurst = false
  /-- Once the target was tried, no node and no target is tried any more. -/
  attempts : s.hasDialed = true → ∀ t, machine.Reaches s.requestStop t →
    t.network.attempts = s.network.attempts
  /-- Once the bursts have their turn, nothing is bound any more. -/
  binds : s.hasDialed = true → s.isStartingUp = false → ∀ t, machine.Reaches s.requestStop t →
    t.network.binds = s.network.binds
  /-- Until the bursts have their turn, the same happens at the same moments as without the request, and
  then there is no burst. -/
  startUp : s.isStartingUp = true →
    (∀ events last, (machine.follow events s).1.isStartingUp = true →
      (machine.follow events s).1.requestStop.wake = (machine.follow events s).1.wake ∧
      machine.follow (events ++ [last]) s.requestStop = noted (machine.follow (events ++ [last]) s)) ∧
    ∀ t, machine.Reaches s.requestStop t → t.isInBurst = false

theorem hasLeft_self (ordered : IsOrdered u s) (dialed : s.hasDialed = true) : HasLeft s s := by
  have past : s.stage ≠ .fresh ∧ s.stage ≠ .gathering := by
    constructor <;> intro early <;> simp [hasDialed, early] at dialed
  obtain ⟨-, dials, standing⟩ := ordered
  have place := standing.place
  have tried : dials = 1 := by
    unfold hasDialed at dialed
    cases stage : s.stage <;> simp only [stage] at place dialed
    case dialing | connected | pacing | winding => exact place.1
    case fresh | gathering | done => cases dialed
  exact ⟨(standing.waited tried).1, past, rfl, fun late => ⟨late, rfl⟩⟩

/-- At every point of every session, a stop request keeps it from another burst, and otherwise leaves its
start as it is. -/
theorem heedsStop_of_reaches {settings : Settings} {counters : Payload.Counters} {receiver : Receiver}
    {plan : Endpoint → Nat → Network.AttemptPlan} {bindFault : Option Fault} {freePort : Int}
    {s t : Session} {stop : Bool} {maxBursts : Option Int}
    (built : ofSettings? settings counters receiver { plan, bindFault, freePort } = .ok s)
    (reached : machine.Reaches { s with stop, maxBursts } t) : t.HeedsStop := by
  have ordered : IsOrdered s t := reached.invariant (isOrdered_start built stop maxBursts)
    (fun now _ here => isOrdered_act here now) fun now input _ here => isOrdered_take here now input
  have asked (u : Session) (later : machine.Reaches t.requestStop u) : u.IsAsked :=
    isAsked_of_reaches t.isAsked_requestStop later
  refine ⟨?_, ?_, ?_, fun early => ⟨?_, ?_⟩⟩
  · intro u later idle event
    exact (asked u later).isInBurst_happen idle event
  · intro dialed u later
    exact (hasLeft_of_reaches (hasLeft_self ordered dialed).stopped later).attempts
  · intro dialed late u later
    exact ((hasLeft_of_reaches (hasLeft_self ordered dialed).stopped later).binds late).2
  · intro events last starting
    exact ⟨wake_requestStop starting, follow_asked starting last⟩
  · intro u later
    have idle : t.requestStop.isInBurst = false := by
      rw [requestStop_eq (not_pacing_of_isStartingUp early)]
      unfold isStartingUp at early
      unfold isInBurst
      cases stage : t.stage <;> simp only [stage] at early ⊢
      case pacing => cases early
    induction later with
    | start => exact idle
    | act now before ih => exact (asked _ before).isInBurst_happen ih (.act now)
    | take now input before ih => exact (asked _ before).isInBurst_happen ih (.take now input)

theorem ofSettings?_nodes {settings : Settings} {counters : Payload.Counters} {receiver : Receiver}
    {network : Network} {s : Session} (built : ofSettings? settings counters receiver network = .ok s)
    (nodes : List Endpoint) :
    ofSettings? { settings with nodes } counters receiver network =
      .ok { s with settings := { settings with nodes } } := by
  unfold ofSettings? at built ⊢
  simp only [bind, Except.bind] at built ⊢
  split at built
  · next generator sized =>
    split at built
    · cases built
    · next delay delays =>
      split at built
      · cases built
      · next duration lasts =>
        split at built
        · cases built
        · next pacer paced =>
          cases built
          rfl
  · cases built

/-- The session of two fillers in each burst that waits for the other node. -/
def ofLateNode : Session :=
  { ofTwoFillers lateNode with settings := { twoFillers with nodes := [otherNode] } }

theorem ofSettings?_lateNode :
    ofSettings? { twoFillers with nodes := [otherNode] } ⟨7, 0, 0⟩ { verbose := false } lateNode =
      .ok ofLateNode :=
  ofSettings?_nodes (ofSettings?_twoFillers lateNode) [otherNode]

/-- The node refused its first probe, and the next one is still to come. -/
def refusedOnce : Session :=
  (machine.follow [.act 0, .act 0, .act 1] { ofLateNode with stop := false, maxBursts := none }).1

theorem heedsStop_refusedOnce :
    ofSettings? { twoFillers with nodes := [otherNode] } ⟨7, 0, 0⟩ { verbose := false } lateNode =
        .ok ofLateNode ∧
      refusedOnce.isStartingUp = true ∧ refusedOnce.wake = .waking 11 ∧ refusedOnce.HeedsStop := by
  have reached : machine.Reaches { ofLateNode with stop := false, maxBursts := none } refusedOnce :=
    ((Machine.Reaches.start.act 0).act 0).act 1
  exact ⟨ofSettings?_lateNode, by decide +kernel, by decide +kernel,
    heedsStop_of_reaches ofSettings?_lateNode reached⟩

/-- A stop request between two probes: the next probe, the attempt at the target and the bind follow all
the same, and only then is there no burst. -/
theorem tries_after_stop :
    let last := ({ ofLateNode with stop := false, maxBursts := none }.simulate [(5, .terminate 15)] 50
      isOver).1.state
    last.network.attempts.map Prod.snd = #[otherNode, otherNode, twoFillers.target] ∧
      last.network.attempts.map Prod.fst = #[0, 11, 11] ∧
      last.network.binds = #[⟨"0.0.0.0", 9001⟩] ∧ last.currentPacer.stats.bursts = 0 := by
  refine ⟨?_, ?_, ?_, ?_⟩ <;> decide +kernel

end Session

end BurstLoad
