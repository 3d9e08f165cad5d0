import BurstLoad.Proofs.Gate.Waiting

/-! When a gate opens. If every node accepts at some time, the wait ends at the moment at which the last
of them does, and each node was tried up to its first acceptance, at moments that follow from its own
script. A node that never accepts keeps the gate shut. -/

set_option autoImplicit false

namespace BurstLoad

open Network (Script)

namespace Probe

section Follows

variable {script : Script} {retry now due : Time} {p : Probe} {place : Nat}

/-- What a probe has tried, all but the last of it was refused. -/
theorem Follows.refused (follows : p.Follows script retry now) :
    script.RefusedUpTo (p.attempts - 1) := by
  have shorter {count : Nat} (refused : script.RefusedUpTo count) :
      script.RefusedUpTo (count - 1) := fun before early => refused before (by omega)
  unfold Follows at follows
  split at follows
  · exact shorter follows.1
  · obtain ⟨place, tried, refused, -⟩ := follows
    rwa [tried]
  · exact shorter follows.1
  · obtain ⟨place, tried, first, -⟩ := follows
    rw [tried]
    exact first.refused
  · obtain ⟨place, tried, refused, -⟩ := follows
    rwa [tried]
  · cases follows

/-- What a script comes to before a moment, the probe has tried by then. -/
theorem Follows.lt_attempts (follows : p.Follows script retry now) (timely : script.IsTimely)
    (nonneg : 0 ≤ retry) (refused : script.RefusedUpTo place)
    (past : script.knockAt retry place < now) : place < p.attempts := by
  have early {count : Nat} (ahead : now ≤ script.knockAt retry count) : place < count := by
    rw [← Nat.not_le]
    intro behind
    have mono := Script.knockAt_mono timely nonneg behind
    exact Rat.not_le.mpr past (Rat.le_trans ahead mono)
  unfold Follows at follows
  split at follows
  · obtain ⟨-, rfl, ahead⟩ := follows
    exact early ahead
  · obtain ⟨last, tried, -, -, rfl, ahead⟩ := follows
    rw [tried]
    exact early (Rat.le_trans ahead (Script.answerAt_le_knockAt_succ nonneg))
  · exact early follows.2.2
  · obtain ⟨last, tried, first, -⟩ := follows
    rw [tried, Nat.lt_succ_iff]
    exact refused.le_of_acceptedAt first
  · obtain ⟨last, tried, -, broken, -⟩ := follows
    rw [tried, Nat.lt_succ_iff]
    exact refused.le_of_not_refused (by simp [broken])
  · cases follows

/-- A probe does nothing later than at its first acceptance. -/
theorem Follows.due_le (follows : p.Follows script retry now) (timely : script.IsTimely)
    (nonneg : 0 ≤ retry) (first : script.AcceptedAt place) (wakes : p.wake = .waking due) :
    due ≤ script.answerAt retry place := by
  have knocking (refused : script.RefusedUpTo p.attempts) :
      script.knockAt retry p.attempts ≤ script.answerAt retry place :=
    Rat.le_trans (Script.knockAt_le_answerAt timely)
      (Script.answerAt_mono timely nonneg (refused.le_of_acceptedAt first))
  unfold Follows at follows
  unfold wake at wakes
  split at follows <;> simp only [*] at wakes
  case h_1 =>
    obtain ⟨refused, rfl, -⟩ := follows
    cases wakes
    exact knocking refused
  case h_2 =>
    obtain ⟨last, -, refused, -, rfl, -⟩ := follows
    cases wakes
    exact Script.answerAt_mono timely nonneg (refused.le_of_acceptedAt first)
  case h_3 =>
    obtain ⟨refused, rfl, -⟩ := follows
    cases wakes
    exact knocking refused
  all_goals cases wakes

theorem Follows.acceptedAt (follows : p.Follows script retry now) (online : p.isOnline = true) :
    ∃ place, p.attempts = place + 1 ∧ script.AcceptedAt place ∧
      script.answerAt retry place ≤ now := by
  unfold isOnline at online
  split at online
  · next stage =>
    rw [Follows, stage] at follows
    exact follows
  · cases online

theorem Follows.not_failed (follows : p.Follows script retry now) (plain : script.IsPlain)
    (fault : Fault) : p.stage ≠ .failed fault := by
  intro failed
  rw [Follows, failed] at follows
  obtain ⟨place, -, -, broken, -⟩ := follows
  exact plain place fault broken

theorem Follows.isOnline_of_idle (follows : p.Follows script retry now) (plain : script.IsPlain)
    (idle : p.wake = .idle) : p.isOnline = true := by
  obtain finished | ⟨due, wakes, -⟩ := follows.finished_or_wakes
  · have sound := follows.not_failed plain
    unfold Follows at follows
    unfold isOver at finished
    unfold isOnline
    cases stage : p.stage <;> simp [stage] at follows finished sound ⊢
  · cases idle.symm.trans wakes

/-- How many turns a probe has before it, when its first acceptance is at a place. -/
def load (place : Nat) (p : Probe) : Nat :=
  match p.stage with
  | .unstarted _ | .pausing _ => 2 * (place + 1 - p.attempts)
  | .connecting .. => 2 * (place + 1 - p.attempts) + 1
  | .online | .failed _ | .cancelled => 0

theorem Turn.load_lt {p q : Probe} {n m : Network} {retryAfter : Span}
    (turn : Turn retryAfter due n p m q) (follows : p.Follows script retry now)
    (wakes : p.wake = .waking due) (first : script.AcceptedAt place) : q.load place < p.load place := by
  cases turn with
  | knock knocks =>
    have before := (follows.knocking wakes knocks).1.le_of_acceptedAt first
    obtain ⟨since, stage⟩ | ⟨since, stage⟩ := knocks <;> simp only [load, stage] <;> omega
  | pause connecting | comeThrough connecting | fail connecting => simp [load, connecting]
  | rest finished =>
    rw [wake_of_isOver finished] at wakes
    cases wakes

end Follows

end Probe

namespace GateWait

variable {w u : GateWait} {peers : List Endpoint} {plan : Endpoint → Script}
  {retry now due later : Time} {first : Endpoint → Nat}

/-- When the last of some nodes accepts. -/
def openAt (peers : List Endpoint) (plan : Endpoint → Script) (retry : Time)
    (first : Endpoint → Nat) : Time :=
  (peers.map fun e => (plan e).answerAt retry (first e)).foldr Time.later 0

theorem openAt_le (start : 0 ≤ later) (all : ∀ e ∈ peers, (plan e).answerAt retry (first e) ≤ later) :
    openAt peers plan retry first ≤ later := by
  induction peers with
  | nil => exact start
  | cons e rest ih =>
    rw [List.forall_mem_cons] at all
    exact Time.later_le all.1 (ih all.2)

theorem answerAt_le_openAt {e : Endpoint} (member : e ∈ peers) :
    (plan e).answerAt retry (first e) ≤ openAt peers plan retry first := by
  induction peers with
  | nil => cases member
  | cons f rest ih =>
    obtain rfl | other := List.mem_cons.mp member
    · exact Time.le_later_left _ _
    · exact Rat.le_trans (ih other) (Time.le_later_right _ _)

theorem openAt_nonneg : 0 ≤ openAt peers plan retry first := by
  induction peers with
  | nil => exact Rat.le_refl
  | cons e rest ih => exact Rat.le_trans ih (Time.le_later_right _ _)

/-- All nodes accept, each at the place that is given for it. -/
def Accepts (peers : List Endpoint) (plan : Endpoint → Script) (first : Endpoint → Nat) : Prop :=
  ∀ e ∈ peers, (plan e).AcceptedAt (first e)

/-- What is tried by a moment, and whether the wait is over by then. -/
structure IsOnTime (peers : List Endpoint) (plan : Endpoint → Script) (retry now : Time)
    (w : GateWait) : Prop where
  -- at the moments of its own script, up to the first acceptance, and as far as the clock has come
  tried : ∀ e ∈ peers, ∃ count,
    w.network.triedAt e = (List.range count).map ((plan e).knockAt retry) ∧
    (plan e).RefusedUpTo (count - 1) ∧
    ∀ place, (plan e).RefusedUpTo place → (plan e).knockAt retry place < now → place < count
  opened : ∀ first, Accepts peers plan first →
    w.ended = none ∧ now ≤ openAt peers plan retry first ∨
    w.ended = some (openAt peers plan retry first, .returned ()) ∧
      openAt peers plan retry first ≤ now ∧
      w.gate.probes.map Probe.attempts = peers.map (fun e => first e + 1) ∧
      ∀ e ∈ peers, w.network.triedAt e = (List.range (first e + 1)).map ((plan e).knockAt retry)
  shut : (∃ e ∈ peers, ∀ place, ¬ (plan e).AcceptedAt place) → w.ended = none ∧ w.wake ≠ .idle

section Opening

variable (here : w.OnScript peers plan retry now)

include here

theorem OnScript.exists_probe {e : Endpoint} (member : e ∈ peers) :
    ∃ p ∈ w.gate.probes, p.peer = e := by
  rw [← here.nodes] at member
  exact List.mem_map.mp member

theorem OnScript.tried_eq {e : Endpoint} (member : e ∈ peers) (timely : Timely peers plan retry) :
    ∃ count, w.network.triedAt e = (List.range count).map ((plan e).knockAt retry) ∧
      (plan e).RefusedUpTo (count - 1) ∧
      ∀ place, (plan e).RefusedUpTo place → (plan e).knockAt retry place < now → place < count := by
  obtain ⟨p, known, rfl⟩ := here.exists_probe member
  have follows := here.follows p known
  refine ⟨p.attempts, here.tried p known, follows.refused, fun place refused past => ?_⟩
  exact follows.lt_attempts (timely.attempts _ member) timely.pauses refused past

/-- Where nobody meets anything but acceptances and network errors, the gate does not fail. -/
theorem OnScript.verdict_ne_error (plain : Plain peers plan) (fault : Fault) :
    w.gate.verdict? ≠ some (.error fault) := by
  intro verdict
  obtain ⟨p, known, failed⟩ := exists_failed_of_verdict verdict
  exact (here.follows p known).not_failed (plain _ (here.mem_peers known)) fault failed

/-- A wait that does not go on is over. -/
theorem OnScript.awake (plain : Plain peers plan) (waiting : w.ended = none) : w.wake ≠ .idle := by
  intro idle
  cases verdict : w.gate.verdict? with
  | some => cases (wake_of_verdict waiting verdict).symm.trans idle
  | none =>
    rw [wake_eq fun _ => verdict] at idle
    obtain ⟨-, still⟩ | ⟨due, wakes, -⟩ := w.gate.wake_cases
    · have online (p : Probe) (known : p ∈ w.gate.probes) : p.isOnline = true :=
        (here.follows p known).isOnline_of_idle (plain _ (here.mem_peers known)) (still p known)
      have sound : w.gate.probes.findSome? Probe.fault? = none := by
        refine List.findSome?_eq_none_iff.mpr fun p known => ?_
        have online := online p known
        unfold Probe.isOnline at online
        unfold Probe.fault?
        cases stage : p.stage <;> simp [stage] at online ⊢
      rw [Gate.verdict?, sound] at verdict
      simp [List.all_eq_true.mpr online] at verdict
    · cases idle.symm.trans wakes

/-- As long as nobody came through at last, the next act is not after that. -/
theorem OnScript.due_le_openAt (accepts : Accepts peers plan first) (timely : Timely peers plan retry)
    {p : Probe} (member : p ∈ w.gate.probes) (wakes : p.wake = .waking due) :
    due ≤ openAt peers plan retry first := by
  have known := here.mem_peers member
  refine Rat.le_trans ?_ (answerAt_le_openAt known)
  exact (here.follows p member).due_le (timely.attempts _ known) timely.pauses (accepts _ known) wakes

theorem OnScript.openAt_le (accepts : Accepts peers plan first) (isOpen : w.gate.IsOpen)
    (start : 0 ≤ now) : openAt peers plan retry first ≤ now := by
  refine GateWait.openAt_le start fun e member => ?_
  obtain ⟨p, known, rfl⟩ := here.exists_probe member
  obtain ⟨place, -, accepted, answered⟩ := (here.follows p known).acceptedAt (isOpen p known)
  rw [(accepts _ member).unique accepted]
  exact answered

theorem OnScript.attempts_eq (accepts : Accepts peers plan first) (isOpen : w.gate.IsOpen)
    {p : Probe} (member : p ∈ w.gate.probes) : p.attempts = first p.peer + 1 := by
  obtain ⟨place, tried, accepted, -⟩ := (here.follows p member).acceptedAt (isOpen p member)
  rw [tried, (accepts _ (here.mem_peers member)).unique accepted]

end Opening

/-- A wait that goes on is not late, and one that is over ended at the right moment. -/
def IsPunctual (peers : List Endpoint) (plan : Endpoint → Script) (retry : Time)
    (first : Endpoint → Nat) (now : Time) (w : GateWait) : Prop :=
  w.ended = none ∧ now ≤ openAt peers plan retry first ∨
    w.ended = some (openAt peers plan retry first, .returned ())

theorem IsPunctual.move (punctual : w.IsPunctual peers plan retry first now)
    (here : w.OnScript peers plan retry now) (accepts : Accepts peers plan first)
    (timely : Timely peers plan retry) (plain : Plain peers plan) (start : 0 ≤ now)
    (wakes : w.wake.moment? now = some due) (move : Move due w u) :
    u.IsPunctual peers plan retry first due := by
  obtain ⟨waiting, early⟩ | finished := punctual
  · cases move with
    | pass _ verdict =>
      rw [wake_of_verdict waiting verdict] at wakes
      cases wakes
      have late := here.openAt_le accepts (Gate.isOpen_of_verdict? verdict) start
      rw [Rat.le_antisymm early late]
      exact .inr rfl
    | fail _ verdict => exact absurd verdict (here.verdict_ne_error plain _)
    | @turn before behind p _ _ time unsettled probes wake own =>
      have member : p ∈ w.gate.probes := by simp [probes]
      obtain rfl := here.due_eq member own wake wakes
      exact .inl ⟨waiting, here.due_le_openAt accepts timely member own⟩
  · exact .inr (ended_move move finished)

theorem IsPunctual.course {h : Machine.History GateWait} {began : Time}
    (punctual : w.IsPunctual peers plan retry first began) (here : w.OnScript peers plan retry began)
    (distinct : peers.Nodup) (accepts : Accepts peers plan first) (timely : Timely peers plan retry)
    (plain : Plain peers plan) (start : 0 ≤ began) (course : machine.Course began w h now u)
    (uncancelled : ∀ time, u.ended ≠ some (time, .cancelled)) :
    u.IsPunctual peers plan retry first now := by
  refine (uncancelled_induction (P := fun now w => 0 ≤ now ∧ w.OnScript peers plan retry now ∧
    w.IsPunctual peers plan retry first now) course uncancelled ⟨start, here, punctual⟩ ?_ ?_).2.2
  · rintro now due t u ⟨start, here, punctual⟩ wakes move
    exact ⟨Rat.le_trans start (Wake.le_of_moment? wakes), here.move distinct timely wakes move,
      punctual.move here accepts timely plain start wakes move⟩
  · rintro now later t ⟨start, here, punctual⟩ ended low high
    refine ⟨Rat.le_trans start low, here.wait low high, .inr ?_⟩
    obtain ⟨waiting, -⟩ | opened := punctual
    · exact absurd waiting ended
    · exact opened

/-- Once a wait has ended with all nodes, each of them was tried up to its first acceptance. -/
theorem OnScript.tried_of_isOpen (here : w.OnScript peers plan retry now)
    (accepts : Accepts peers plan first) (isOpen : w.gate.IsOpen) :
    w.gate.probes.map Probe.attempts = peers.map (fun e => first e + 1) ∧
      ∀ e ∈ peers,
        w.network.triedAt e = (List.range (first e + 1)).map ((plan e).knockAt retry) := by
  have attempts (p : Probe) (member : p ∈ w.gate.probes) : p.attempts = first p.peer + 1 :=
    here.attempts_eq accepts isOpen member
  constructor
  · rw [← here.nodes, List.map_map]
    exact List.map_congr_left attempts
  · intro e member
    obtain ⟨p, known, rfl⟩ := here.exists_probe member
    rw [here.tried p known, Probe.knocks, attempts p known]

/-- A node that never accepts is waited for. -/
theorem OnScript.ended_of_never (here : w.OnScript peers plan retry now) (concludes : w.Concludes)
    (plain : Plain peers plan) (uncancelled : ∀ time, w.ended ≠ some (time, .cancelled))
    {e : Endpoint} (member : e ∈ peers) (never : ∀ place, ¬ (plan e).AcceptedAt place) :
    w.ended = none := by
  cases ended : w.ended with
  | none => rfl
  | some ending =>
    obtain ⟨time, outcome⟩ := ending
    cases outcome with
    | returned =>
      obtain ⟨p, known, rfl⟩ := here.exists_probe member
      have online := concludes.returned time ended p known
      obtain ⟨place, -, accepted, -⟩ := (here.follows p known).acceptedAt online
      exact absurd accepted (never place)
    | failed fault =>
      obtain ⟨p, known, failed⟩ := concludes.failed time fault ended
      exact absurd failed ((here.follows p known).not_failed (plain _ (here.mem_peers known)) fault)
    | cancelled => exact absurd ended (uncancelled time)

theorem OnScript.isOnTime (here : w.OnScript peers plan retry now) (concludes : w.Concludes)
    (timely : Timely peers plan retry) (plain : Plain peers plan) (start : 0 ≤ now)
    (uncancelled : ∀ time, w.ended ≠ some (time, .cancelled))
    (punctual : ∀ first, Accepts peers plan first → w.IsPunctual peers plan retry first now) :
    w.IsOnTime peers plan retry now := by
  refine ⟨fun e member => here.tried_eq member timely, fun first accepts => ?_, ?_⟩
  · obtain waits | ended := punctual first accepts
    · exact .inl waits
    · have isOpen := concludes.returned _ ended
      exact .inr ⟨ended, here.openAt_le accepts isOpen start, here.tried_of_isOpen accepts isOpen⟩
  · rintro ⟨e, member, never⟩
    have waiting := here.ended_of_never concludes plain uncancelled member never
    exact ⟨waiting, here.awake plain waiting⟩

/-- The turns that the probes of a wait have before them. -/
def load (first : Endpoint → Nat) (w : GateWait) : Nat :=
  w.gate.probes.foldr (fun p turns => p.load (first p.peer) + turns) 0

theorem load_lt {before behind : List Probe} {p q : Probe} {g : Gate} {m : Network}
    (probes : w.gate.probes = before ++ p :: behind) (peer : q.peer = p.peer)
    (less : q.load (first p.peer) < p.load (first p.peer)) :
    load first { w with gate := { g with probes := before ++ q :: behind }, network := m } <
      load first w := by
  unfold load
  rw [probes]
  dsimp only
  clear probes
  induction before with
  | nil => simpa only [List.nil_append, List.foldr_cons, peer, Nat.add_lt_add_iff_right] using less
  | cons _ _ ih => simpa only [List.cons_append, List.foldr_cons, Nat.add_lt_add_iff_left] using ih

/-- Left alone, a wait for nodes that all accept comes to its end. -/
theorem exists_ended (here : w.OnScript peers plan retry now) (distinct : peers.Nodup)
    (timely : Timely peers plan retry) (plain : Plain peers plan)
    (accepts : Accepts peers plan first) (waiting : w.ended = none) :
    ∃ acts time, (machine.alone acts now w).2.2.ended = some (time, .returned ()) := by
  -- Each turn takes from the load.
  induction more : w.load first using Nat.strongRecOn generalizing now w with
  | ind bound ih =>
    obtain ⟨due, wakes⟩ : ∃ due, w.wake.moment? now = some due := by
      cases wake : w.wake with
      | running | waking => exact ⟨_, rfl⟩
      | idle => exact absurd wake (here.awake plain waiting)
    have alone (acts : Nat) : (machine.alone (acts + 1) now w).2 =
        (machine.alone acts due (w.act due).1).2 := Machine.alone_succ wakes acts
    have move := move_act (awake_of_moment? wakes) due
    have next := here.move distinct timely wakes move
    generalize (w.act due).1 = u at alone move next
    cases move with
    | pass => exact ⟨1, due, by rw [alone]; rfl⟩
    | fail _ verdict => exact absurd verdict (here.verdict_ne_error plain _)
    | @turn before behind p q m time unsettled probes wake own turn =>
      have member : p ∈ w.gate.probes := by simp [probes]
      obtain rfl := here.due_eq member own wake wakes
      have less := turn.load_lt (here.follows p member) own (accepts _ (here.mem_peers member))
      have lighter := load_lt (m := m) (g := w.gate) probes turn.peer_eq less
      rw [more] at lighter
      obtain ⟨acts, time, ended⟩ := ih _ lighter next waiting rfl
      exact ⟨acts + 1, time, by rw [alone]; exact ended⟩

/-- A wait that is not cancelled is on time at each of its points, and where all nodes accept it comes
to its end. -/
structure Completes (peers : List Endpoint) (plan : Endpoint → Script) (retry : Time)
    (w : GateWait) : Prop where
  onTime : ∀ h now u, machine.Course 0 w h now u → (∀ time, u.ended ≠ some (time, .cancelled)) →
    u.IsOnTime peers plan retry now
  returns : ∀ first, Accepts peers plan first → ∃ acts,
    (machine.alone acts 0 w).2.2.ended = some (openAt peers plan retry first, .returned ())

theorem completes_of_awaits {network : Network} (awaits : Awaits (.ms retry) network peers w)
    (untried : network.attempts = #[]) (counted : network.IsCounted) (distinct : peers.Nodup)
    (timely : Timely peers network.plan retry) (plain : Plain peers network.plan) :
    w.Completes peers network.plan retry := by
  have onScript := awaits.onScript untried counted
  have punctual (first : Endpoint → Nat) : w.IsPunctual peers network.plan retry first 0 := by
    obtain ⟨single, rfl⟩ := awaits.eq
    cases peers with
    | nil => exact .inr rfl
    | cons => exact .inl ⟨rfl, openAt_nonneg⟩
  have onTime (h : Machine.History GateWait) (now : Time) (u : GateWait)
      (course : machine.Course 0 w h now u) (uncancelled : ∀ time, u.ended ≠ some (time, .cancelled)) :
      u.IsOnTime peers network.plan retry now := by
    have here := onScript.course distinct timely course uncancelled
    refine here.isOnTime (awaits.concludes.course course) timely plain course.le_now.1 uncancelled ?_
    intro first accepts
    exact (punctual first).course onScript distinct accepts timely plain Rat.le_refl course uncancelled
  refine ⟨onTime, fun first accepts => ?_⟩
  obtain ⟨waiting, -⟩ | finished := punctual first
  · obtain ⟨acts, time, ended⟩ := exists_ended onScript distinct timely plain accepts waiting
    have here := onTime _ _ _ (machine.alone_course acts 0 w) (by simp [ended])
    obtain ⟨unended, -⟩ | ⟨opened, -⟩ := here.opened first accepts
    · cases ended.symm.trans unended
    · exact ⟨acts, opened⟩
  · exact ⟨0, finished⟩

/-- The node refuses its first attempt and accepts the second, with a fault at the close. -/
def shyNode : Endpoint := ⟨"10.0.0.1", 9000⟩

def openNode : Endpoint := ⟨"10.0.0.2", 9000⟩

def shyNetwork : Network where
  plan e place :=
    if e = shyNode then
      match place with
      | 0 => ⟨3, .error (.network "ConnectionRefusedError" "refused")⟩
      | _ => ⟨4, .ok { Network.WirePlan.smooth with closeFault := some (.network "OSError" "reset") }⟩
    else ⟨5, .ok .smooth⟩

theorem timely_shyNetwork : Timely [shyNode, openNode] shyNetwork.plan 10 := by
  refine ⟨fun e _ place => ?_, by decide⟩
  simp only [shyNetwork]
  split
  · split <;> decide
  · decide

theorem plain_shyNetwork : Plain [shyNode, openNode] shyNetwork.plan := by
  intro e _ place fault
  simp only [shyNetwork, Script.answer]
  split
  · split <;> nofun
  · nofun

theorem accepts_shyNetwork :
    Accepts [shyNode, openNode] shyNetwork.plan fun e => if e = shyNode then 1 else 0 := by
  intro e member
  simp only [List.mem_cons, List.not_mem_nil, or_false] at member
  obtain rfl | rfl := member
  · refine ⟨fun before early => ?_, rfl⟩
    obtain rfl : before = 0 := by simpa using early
    exact ⟨_, rfl⟩
  · exact ⟨.zero, rfl⟩

/-- The other node has accepted at 5, and the shy one does at 3 + 10 + 4. -/
theorem completes_shyNetwork :
    (start [shyNode, openNode] (.ms 10) shyNetwork).1.Completes [shyNode, openNode]
        shyNetwork.plan 10 ∧
      ∃ acts, (machine.alone acts 0
        (start [shyNode, openNode] (.ms 10) shyNetwork).1).2.2.ended = some (17, .returned ()) := by
  have awaits : Awaits (.ms 10) shyNetwork _ _ := .all [shyNode, openNode]
  have completes := completes_of_awaits awaits rfl (fun _ => rfl) (by decide) timely_shyNetwork
    plain_shyNetwork
  obtain ⟨acts, ended⟩ := completes.returns _ accepts_shyNetwork
  refine ⟨completes, acts, ended.trans ?_⟩
  rw [show openAt _ _ _ _ = 17 from by decide +kernel]

end GateWait

end BurstLoad
