import BurstLoad.Proofs.Gate.Waiting
import BurstLoad.Proofs.Record

/-! Cancelling a wait. At whatever moment it comes, and wherever the probes stand, each of them that is
not done ends, the wait ends, and nothing happens after it. -/

set_option autoImplicit false

namespace BurstLoad

open Network (Script answerOf)

namespace Probe

/-- A probe that has met, and is about to meet, nothing but acceptances and network errors. -/
def IsSound (p : Probe) : Prop :=
  match p.stage with
  | .connecting _ result => ∀ fault, answerOf result ≠ .broken fault
  | .failed _ => False
  | .unstarted _ | .pausing _ | .online | .cancelled => True

variable {p q : Probe} {retry : Span} {now : Time} {n m : Network}

theorem Turn.isSound (turn : Turn retry now n p m q) (plain : Script.IsPlain (n.plan p.peer))
    (sound : p.IsSound) : q.IsSound := by
  cases turn with
  | knock => exact plain _
  | pause | comeThrough => trivial
  | fail connecting broken =>
    simp only [IsSound, connecting] at sound
    exact absurd broken (sound _)
  | rest => exact sound

theorem isSound_cancel (sound : p.IsSound) : p.cancel.IsSound := by
  unfold cancel
  split
  · exact sound
  · trivial

theorem isOver_cancel (p : Probe) : p.cancel.isOver = true := by
  unfold cancel
  split
  · next finished => exact finished
  · rfl

/-- What a cancellation makes of a probe: one that is done stays as it is, and is done because its node
accepted, and one that is not is cancelled where it stands. -/
inductive Stops (p : Probe) : Probe → Prop where
  | done : p.stage = .online → Stops p p
  | cut : p.isOver = false → Stops p { p with stage := .cancelled }

theorem stops_cancel (sound : p.IsSound) (uncancelled : p.stage ≠ .cancelled) : p.Stops p.cancel := by
  unfold cancel
  split
  · next finished =>
    refine .done ?_
    unfold IsSound at sound
    unfold isOver at finished
    cases stage : p.stage <;> simp [stage] at sound finished uncancelled ⊢
  · next going => exact .cut (Bool.eq_false_iff.mpr going)

end Probe

namespace GateWait

variable {w u first : GateWait} {peers : List Endpoint} {retry : Span} {network : Network}
  {now later moment : Time}

/-- Every probe keeps to acceptances and network errors, as the plans of its nodes do. -/
structure IsSound (peers : List Endpoint) (plan : Endpoint → Script) (w : GateWait) : Prop where
  planned : w.network.plan = plan
  nodes : w.gate.probes.map Probe.peer = peers
  probes : ∀ p ∈ w.gate.probes, p.IsSound

theorem Awaits.isSound (awaits : Awaits retry network peers first) :
    first.IsSound peers network.plan := by
  obtain ⟨single, rfl⟩ := awaits.eq
  refine ⟨rfl, Gate.peers_ofPeers peers retry 0, fun p member => ?_⟩
  obtain ⟨peer, -, rfl⟩ := List.mem_map.mp member
  trivial

theorem IsSound.move {plan : Endpoint → Script} (sound : w.IsSound peers plan)
    (plain : Plain peers plan) (move : Move now w u) : u.IsSound peers plan := by
  cases move with
  | pass | fail => exact { sound with }
  | @turn before behind p q m _ _ probes _ _ turn =>
    have member : p ∈ w.gate.probes := by simp [probes]
    refine ⟨turn.plan_eq.trans sound.planned, ?_, fun r known => ?_⟩
    · rw [← sound.nodes, probes]
      simp [turn.peer_eq]
    · obtain rfl | ⟨-, other⟩ := mem_of_turn probes known
      · refine turn.isSound ?_ (sound.probes p member)
        rw [sound.planned]
        exact plain _ (sound.nodes ▸ List.mem_map_of_mem member)
      · exact sound.probes r other

theorem IsSound.cancel {plan : Endpoint → Script} (sound : w.IsSound peers plan) (now : Time) :
    (w.cancel now).IsSound peers plan := by
  unfold GateWait.cancel
  split
  · exact sound
  · refine ⟨sound.planned, (Gate.peers_cancel _).trans sound.nodes, fun q member => ?_⟩
    obtain ⟨p, known, rfl⟩ := List.mem_map.mp member
    exact Probe.isSound_cancel (sound.probes p known)

theorem IsSound.course {plan : Endpoint → Script} {h : Machine.History GateWait}
    (sound : w.IsSound peers plan) (plain : Plain peers plan)
    (course : machine.Course now w h later u) : u.IsSound peers plan := by
  induction course with
  | start => exact sound
  | act _ wakes ih => exact ih.move plain (move_act (awake_of_moment? wakes) _)
  | take _ _ _ _ ih => exact ih.cancel _

theorem wake_of_isOver {ending : Time × Outcome Unit} (finished : w.ended = some ending)
    (done : ∀ p ∈ w.gate.probes, p.isOver = true) : w.wake = .idle := by
  rw [wake_eq (by simp [finished])]
  obtain ⟨idle, -⟩ | ⟨due, -, ⟨p, member, wakes⟩, -⟩ := w.gate.wake_cases
  · exact idle
  · cases wakes.symm.trans (Probe.wake_of_isOver (done p member))

/-- Nothing happens to a wait that has ended and whose probes are all done. -/
theorem follow_of_isOver {ending : Time × Outcome Unit} (finished : w.ended = some ending)
    (done : ∀ p ∈ w.gate.probes, p.isOver = true) (events : List (Machine.Event Unit)) :
    machine.follow events w = (w, []) := by
  have act (now : Time) : machine.act now w = (w, []) := by
    rw [show machine.act now w = w.act now from rfl, GateWait.act, finished]
    dsimp only
    rw [Gate.act_of_isOver done, ← finished]
  have take (now : Time) (input : Unit) : machine.take now input w = (w, []) := by
    rw [show machine.take now input w = (w.cancel now, []) from rfl, cancel_of_ended finished]
  induction events with
  | nil => rfl
  | cons event rest ih =>
    rw [Machine.follow_cons]
    cases event with
    | act now => rw [Machine.happen, act, ih]; rfl
    | take now input => rw [Machine.happen, take, ih]; rfl

/-- What a cancellation at a moment makes of a wait that goes on, and all that is left to come. -/
structure StopsAt (moment : Time) (w u : GateWait) : Prop where
  ended : u.ended = some (moment, .cancelled)
  probes : u.gate.probes = w.gate.probes.map Probe.cancel
  stops : ∀ p ∈ w.gate.probes, p.Stops p.cancel
  network : u.network = w.network
  idle : u.wake = .idle
  still : ∀ events, machine.follow events u = (u, [])

theorem stopsAt_of_course {h : Machine.History GateWait} (awaits : Awaits retry network peers first)
    (plain : Plain peers network.plan) (course : machine.Course 0 first h now w)
    (waiting : w.ended = none) (low : now ≤ moment)
    (high : ∀ due, w.wake.moment? now = some due → moment ≤ due) :
    machine.Course 0 first h moment (machine.take moment () w).1 ∧
      w.StopsAt moment (machine.take moment () w).1 := by
  have sound := awaits.isSound.course plain course
  have concludes := awaits.concludes.course course
  have cancelled : (machine.take moment () w).1 =
      { w with gate := w.gate.cancel, ended := some (moment, .cancelled) } := by
    rw [show (machine.take moment () w).1 = w.cancel moment from rfl, cancel, waiting]
    rfl
  have done : ∀ p ∈ w.gate.cancel.probes, p.isOver = true := by
    intro q member
    obtain ⟨p, -, rfl⟩ := List.mem_map.mp member
    exact p.isOver_cancel
  refine ⟨course.take () low high, ?_⟩
  rw [cancelled]
  refine ⟨rfl, rfl, fun p member => ?_, rfl, wake_of_isOver rfl done, follow_of_isOver rfl done⟩
  refine Probe.stops_cancel (sound.probes p member) (concludes.uncancelled ?_ p member)
  simp [waiting]

/-- A node each for a probe that is done, one that pauses and one that waits for an answer, and one whose
probe has not begun. -/
def mixedNodes : List Endpoint :=
  [⟨"10.0.0.1", 9000⟩, ⟨"10.0.0.2", 9000⟩, ⟨"10.0.0.3", 9000⟩, ⟨"10.0.0.4", 9000⟩]

def mixedNetwork : Network where
  plan e _ :=
    if e.host = "10.0.0.2" then ⟨0, .error (.network "ConnectionRefusedError" "refused")⟩
    else if e.host = "10.0.0.3" then ⟨100, .ok .smooth⟩
    else {}

def mixedWait : Machine.History GateWait × Time × GateWait :=
  machine.alone 5 0 (start mixedNodes (.ms 10) mixedNetwork).1

theorem plain_mixedNetwork : Plain mixedNodes mixedNetwork.plan := by
  intro e _ place fault
  simp only [Script.answer, mixedNetwork]
  split
  · nofun
  · split <;> nofun

theorem stopsAt_mixedWait :
    mixedWait.2.2.ended = none ∧ mixedWait.2.2.wake = .waking 0 ∧
      mixedWait.2.2.gate.probes.map Probe.wake = [.idle, .waking 10, .waking 100, .waking 0] ∧
      mixedWait.2.2.gate.probes.map Probe.attempts = [1, 1, 1, 0] ∧
      mixedWait.2.2.StopsAt 0 (machine.take 0 () mixedWait.2.2).1 := by
  have waiting : mixedWait.2.2.ended = none := by decide +kernel
  have wake : mixedWait.2.2.wake = .waking 0 := by decide +kernel
  have course := machine.alone_course 5 0 (start mixedNodes (.ms 10) mixedNetwork).1
  refine ⟨waiting, wake, by decide +kernel, by decide +kernel, ?_⟩
  refine (stopsAt_of_course (.all mixedNodes) plain_mixedNetwork course waiting ?_ ?_).2
  · decide +kernel
  · intro due wakes
    change (Wake.moment? _ mixedWait.2.2.wake) = some due at wakes
    rw [wake] at wakes
    cases wakes
    exact Time.le_later_right _ _

end GateWait

end BurstLoad
