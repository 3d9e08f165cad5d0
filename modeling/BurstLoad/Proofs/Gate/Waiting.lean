import BurstLoad.Gate.Wait
import BurstLoad.Proofs.Course
import BurstLoad.Proofs.Gate.Script

/-! Waiting at a gate, in time. Each act is the end of the wait or a turn of the probe that is due first.
As long as the wait is not cancelled every probe follows the script of its own node, whether or not
somebody still waits for it. -/

set_option autoImplicit false

namespace BurstLoad

open Network (Script)

deriving instance DecidableEq for Fault, Outcome

theorem Probe.wake_cases (p : Probe) : p.wake = .idle ∨ ∃ due, p.wake = .waking due := by
  unfold wake
  cases p.stage with
  | unstarted due | connecting due => exact .inr ⟨due, rfl⟩
  | pausing due =>
    cases due with
    | none => exact .inl rfl
    | some due => exact .inr ⟨due, rfl⟩
  | online | failed | cancelled => exact .inl rfl

namespace Gate

/-- A gate wakes when the first of its probes does. -/
theorem wake_cases (g : Gate) : g.wake = .idle ∧ (∀ p ∈ g.probes, p.wake = .idle) ∨
    ∃ due, g.wake = .waking due ∧ (∃ p ∈ g.probes, p.wake = .waking due) ∧
      ∀ p ∈ g.probes, ∀ other, p.wake = .waking other → due ≤ other := by
  obtain ⟨retry, probes⟩ := g
  unfold wake
  dsimp only
  induction probes with
  | nil => exact .inl ⟨rfl, by simp⟩
  | cons p rest ih =>
    rw [List.foldr_cons]
    simp only [List.mem_cons, exists_eq_or_imp, forall_eq_or_imp]
    obtain ⟨others, idle⟩ | ⟨due, others, some, first⟩ := ih
    · obtain own | ⟨due, own⟩ := p.wake_cases
      · exact .inl ⟨by rw [own, others]; rfl, own, idle⟩
      · refine .inr ⟨due, by rw [own, others]; rfl, .inl own, ?_, ?_⟩
        · intro other same
          cases own.symm.trans same
          exact Rat.le_refl
        · intro q member other wakes
          cases (idle q member).symm.trans wakes
    · obtain own | ⟨early, own⟩ := p.wake_cases
      · refine .inr ⟨due, by rw [own, others]; rfl, .inr some, ?_, first⟩
        intro other wakes
        cases own.symm.trans wakes
      · by_cases before : early ≤ due
        · refine .inr ⟨early, by rw [own, others]; exact if_pos before, .inl own, ?_, ?_⟩
          · intro other same
            cases own.symm.trans same
            exact Rat.le_refl
          · intro q member other wakes
            exact Rat.le_trans before (first q member other wakes)
        · refine .inr ⟨due, by rw [own, others]; exact if_neg before, .inr some, ?_, first⟩
          intro other same
          cases own.symm.trans same
          exact Rat.le_of_lt (Rat.not_le.mp before)

/-- Of the probes that are due first, one has its turn. -/
theorem actOn_eq {probes : List Probe} {due : Wake} (some : ∃ p ∈ probes, p.wake = due)
    (retry : Span) (now : Time) (n : Network) :
    ∃ before p behind, probes = before ++ p :: behind ∧ p.wake = due ∧
      actOn retry due now n probes =
        (before ++ (p.act retry now n).1 :: behind, (p.act retry now n).2) := by
  induction probes with
  | nil =>
    obtain ⟨p, member, -⟩ := some
    cases member
  | cons q rest ih =>
    rw [actOn_cons]
    by_cases own : q.wake = due
    · exact ⟨[], q, rest, rfl, own, by rw [if_pos own]; rfl⟩
    · simp only [List.mem_cons, exists_eq_or_imp, own, false_or] at some
      obtain ⟨before, p, behind, same, wakes, acted⟩ := ih some
      refine ⟨q :: before, p, behind, by rw [same]; rfl, wakes, ?_⟩
      rw [if_neg own, acted]
      rfl

end Gate

namespace GateWait

/-- How a wait goes on at a moment: it comes to its end, or the probe that is due first has its turn. -/
inductive Move (now : Time) (w : GateWait) : GateWait → Prop where
  | pass : w.ended = none → w.gate.verdict? = some (.ok ()) →
    Move now w { w with ended := some (now, .returned ()) }
  | fail {fault : Fault} : w.ended = none → w.gate.verdict? = some (.error fault) →
    Move now w { w with ended := some (now, .failed fault) }
  | turn {before behind : List Probe} {p q : Probe} {m : Network} {due : Time} :
    (w.ended = none → w.gate.verdict? = none) → w.gate.probes = before ++ p :: behind →
    w.wake = .waking due → p.wake = .waking due → p.Turn w.gate.retry now w.network m q →
    Move now w { w with gate := { w.gate with probes := before ++ q :: behind }, network := m }

variable {w u : GateWait} {now due later : Time}

theorem move_act (awake : w.wake ≠ .idle) (now : Time) : Move now w (w.act now).1 := by
  have goOn (unsettled : w.ended = none → w.gate.verdict? = none) : Move now w
      { w with
        gate := (w.gate.act now w.network).1
        network := (w.gate.act now w.network).2.1 } := by
    have wake : w.wake = w.gate.wake := by
      unfold wake
      cases ended : w.ended with
      | none => rw [unsettled ended]; rfl
      | some => rfl
    obtain ⟨idle, -⟩ | ⟨due, wakes, some, -⟩ := w.gate.wake_cases
    · exact absurd (wake.trans idle) awake
    · obtain ⟨before, p, behind, probes, first, acted⟩ :=
        Gate.actOn_eq some w.gate.retry now w.network
      have turn := p.turn_act w.gate.retry now w.network
      unfold Gate.act
      rw [wakes, acted]
      exact .turn unsettled probes (wake.trans wakes) first turn
  unfold act
  split
  · next waiting settled => exact .pass waiting settled
  · next waiting settled => exact .fail waiting settled
  · next going failing =>
    apply goOn
    intro waiting
    cases verdict : w.gate.verdict? with
    | none => rfl
    | some result =>
      cases result with
      | ok => exact absurd verdict (going waiting)
      | error fault => exact absurd verdict (failing fault waiting)

theorem awake_of_moment? (wakes : w.wake.moment? now = some due) : w.wake ≠ .idle := by
  intro idle
  rw [idle] at wakes
  cases wakes

/-- What is asked of the scripts of some nodes: no attempt and no pause takes less than no time. -/
structure Timely (peers : List Endpoint) (plan : Endpoint → Script) (retry : Time) : Prop where
  attempts : ∀ e ∈ peers, (plan e).IsTimely
  pauses : 0 ≤ retry

/-- At no node an attempt meets anything but an acceptance or a network error. -/
def Plain (peers : List Endpoint) (plan : Endpoint → Script) : Prop :=
  ∀ e ∈ peers, (plan e).IsPlain

/-- Every probe stands where the script of its own node has brought it by a moment. -/
structure OnScript (peers : List Endpoint) (plan : Endpoint → Script) (retry now : Time)
    (w : GateWait) : Prop where
  pause : w.gate.retry = .ms retry
  planned : w.network.plan = plan
  counted : w.network.IsCounted
  nodes : w.gate.probes.map Probe.peer = peers
  follows : ∀ p ∈ w.gate.probes, p.Follows (plan p.peer) retry now
  tried : ∀ p ∈ w.gate.probes, w.network.triedAt p.peer = p.knocks (plan p.peer) retry

variable {peers : List Endpoint} {plan : Endpoint → Script} {retry : Time}

theorem OnScript.mem_peers (here : w.OnScript peers plan retry now) {p : Probe}
    (member : p ∈ w.gate.probes) : p.peer ∈ peers :=
  here.nodes ▸ List.mem_map_of_mem member

theorem OnScript.triesOf_eq (here : w.OnScript peers plan retry now) {p : Probe}
    (member : p ∈ w.gate.probes) : w.network.triesOf p.peer = p.attempts := by
  rw [here.counted, ← Network.length_triedAt, here.tried p member]
  simp [Probe.knocks]

theorem OnScript.le_due (here : w.OnScript peers plan retry now) {p : Probe}
    (member : p ∈ w.gate.probes) (wakes : p.wake = .waking due) : now ≤ due := by
  obtain finished | ⟨due, same, ahead⟩ := (here.follows p member).finished_or_wakes
  · rw [Probe.wake_of_isOver finished] at wakes
    cases wakes
  · cases wakes.symm.trans same
    exact ahead

/-- When a probe has its turn, the clock stands at the moment it waited for. -/
theorem OnScript.due_eq (here : w.OnScript peers plan retry now) {p : Probe}
    (member : p ∈ w.gate.probes) {time : Time} (own : p.wake = .waking time)
    (wake : w.wake = .waking time) (wakes : w.wake.moment? now = some due) : time = due := by
  rw [wake] at wakes
  rw [← Time.later_of_le (here.le_due member own)]
  exact Option.some.inj wakes

/-- A wait that is not about to end wakes when its gate does. -/
theorem wake_eq (unsettled : w.ended = none → w.gate.verdict? = none) : w.wake = w.gate.wake := by
  unfold wake
  cases ended : w.ended with
  | none => rw [unsettled ended]; rfl
  | some => rfl

theorem wake_of_verdict {verdict : Except Fault Unit} (waiting : w.ended = none)
    (settled : w.gate.verdict? = some verdict) : w.wake = .running := by
  simp [wake, waiting, settled]

/-- Until the next act the probes stay where they are. -/
theorem OnScript.wait (here : w.OnScript peers plan retry now) (onward : now ≤ later)
    (before : ∀ due, w.wake.moment? now = some due → later ≤ due) :
    w.OnScript peers plan retry later := by
  refine ⟨here.pause, here.planned, here.counted, here.nodes, fun p member => ?_, here.tried⟩
  refine (here.follows p member).wait onward fun due wakes => ?_
  by_cases unsettled : w.ended = none → w.gate.verdict? = none
  · rw [wake_eq unsettled] at before
    obtain ⟨-, idle⟩ | ⟨first, wake, ⟨q, known, earliest⟩, least⟩ := w.gate.wake_cases
    · cases (idle p member).symm.trans wakes
    · have soon := before first (by
        rw [wake]
        exact congrArg some (Time.later_of_le (here.le_due known earliest)))
      exact Rat.le_trans soon (least p member due wakes)
  · simp only [Classical.not_imp] at unsettled
    obtain ⟨verdict, settled⟩ := Option.ne_none_iff_exists'.mp unsettled.2
    have soon := before now (by rw [wake_of_verdict unsettled.1 settled]; rfl)
    exact Rat.le_trans soon (here.le_due member wakes)

/-- Where one probe had its turn, the others are those that were there before. -/
theorem mem_of_turn {probes before behind : List Probe} {p q r : Probe}
    (whole : probes = before ++ p :: behind) (member : r ∈ before ++ q :: behind) :
    r = q ∨ r ∈ before ++ behind ∧ r ∈ probes := by
  subst whole
  simp only [List.mem_append, List.mem_cons] at member ⊢
  obtain early | own | late := member
  · exact .inr ⟨.inl early, .inl early⟩
  · exact .inl own
  · exact .inr ⟨.inr late, .inr (.inr late)⟩

theorem mem_turn {probes before behind : List Probe} {p r : Probe}
    (whole : probes = before ++ p :: behind) (member : r ∈ probes) (q : Probe) :
    r = p ∨ r ∈ before ++ q :: behind := by
  subst whole
  simp only [List.mem_append, List.mem_cons] at member ⊢
  obtain early | own | late := member
  · exact .inr (.inl early)
  · exact .inl own
  · exact .inr (.inr (.inr late))

theorem peer_ne_of_nodup {before behind : List Probe} {p q : Probe}
    (distinct : ((before ++ p :: behind).map Probe.peer).Nodup) (other : q ∈ before ++ behind) :
    p.peer ≠ q.peer := by
  rw [List.map_append, List.map_cons, List.nodup_append, List.nodup_cons] at distinct
  obtain ⟨-, ⟨alone, -⟩, apart⟩ := distinct
  intro same
  obtain early | late := List.mem_append.mp other
  · exact apart q.peer (List.mem_map_of_mem early) p.peer List.mem_cons_self same.symm
  · exact alone (same ▸ List.mem_map_of_mem late)

/-- An act at its moment keeps every probe on its script. -/
theorem OnScript.move (here : w.OnScript peers plan retry now) (distinct : peers.Nodup)
    (timely : Timely peers plan retry) (wakes : w.wake.moment? now = some due)
    (move : Move due w u) : u.OnScript peers plan retry due := by
  have onward := here.wait (Wake.le_of_moment? wakes) fun other same => by
    cases wakes.symm.trans same
    exact Rat.le_refl
  cases move with
  | pass | fail => exact { onward with }
  | @turn before behind p q m time unsettled probes wake first turn =>
    have member : p ∈ w.gate.probes := by simp [probes]
    have apart (r : Probe) (other : r ∈ before ++ behind) : p.peer ≠ r.peer :=
      peer_ne_of_nodup (by rwa [← probes, here.nodes]) other
    obtain rfl := here.due_eq member first wake wakes
    rw [here.pause] at turn
    have own := (here.follows p member).turn first (timely.attempts _ (here.mem_peers member))
      timely.pauses (congrFun here.planned p.peer) (here.triesOf_eq member) turn
    have ownTried := turn.triedAt_own (here.follows p member) first (here.tried p member)
    rw [turn.peer_eq] at ownTried
    refine ⟨here.pause, turn.plan_eq.trans here.planned, turn.isCounted here.counted, ?_, ?_, ?_⟩
    · rw [← here.nodes, probes]
      simp [turn.peer_eq]
    · intro r known
      obtain rfl | ⟨-, same⟩ := mem_of_turn probes known
      · rw [turn.peer_eq]
        exact own
      · exact onward.follows r same
    · intro r known
      obtain rfl | ⟨other, same⟩ := mem_of_turn probes known
      · rw [turn.peer_eq]
        exact ownTried
      · exact (turn.triedAt_other (apart r other)).trans (here.tried r same)

/-! How a wait ends, and what it leaves. -/

theorem ended_move (move : Move now w u) {ending : Time × Outcome Unit}
    (finished : w.ended = some ending) : u.ended = some ending := by
  cases move with
  | pass waiting | fail waiting =>
    rw [finished] at waiting
    cases waiting
  | turn => exact finished

theorem cancel_of_ended {ending : Time × Outcome Unit} (finished : w.ended = some ending) (now : Time) :
    w.cancel now = w := by
  rw [cancel, finished, Option.isSome_some, if_pos rfl]

theorem ended_cancel (w : GateWait) (now : Time) :
    (w.cancel now).ended = some (w.ended.getD (now, .cancelled)) := by
  unfold cancel
  cases finished : w.ended with
  | none => rfl
  | some => exact finished

/-- A wait that has ended stays so. -/
theorem ended_of_course {h : Machine.History GateWait} {ending : Time × Outcome Unit}
    (finished : w.ended = some ending) (course : machine.Course now w h later u) :
    u.ended = some ending := by
  induction course with
  | start => exact finished
  | act _ wakes ih => exact ended_move (move_act (awake_of_moment? wakes) _) ih
  | take _ _ _ _ ih =>
    rw [show (machine.take _ _ _).1 = GateWait.cancel _ _ from rfl, cancel_of_ended ih]
    exact ih

theorem exists_failed_of_verdict {g : Gate} {fault : Fault}
    (verdict : g.verdict? = some (.error fault)) : ∃ p ∈ g.probes, p.stage = .failed fault := by
  unfold Gate.verdict? at verdict
  split at verdict
  · next found =>
    cases verdict
    obtain ⟨p, member, failed⟩ := List.exists_of_findSome?_eq_some found
    refine ⟨p, member, ?_⟩
    unfold Probe.fault? at failed
    split at failed
    · next stage =>
      cases failed
      exact stage
    · cases failed
  · split at verdict <;> cases verdict

/-- What the end of a wait says of its probes. -/
structure Concludes (w : GateWait) : Prop where
  returned : ∀ time, w.ended = some (time, .returned ()) → w.gate.IsOpen
  failed : ∀ time fault, w.ended = some (time, .failed fault) →
    ∃ p ∈ w.gate.probes, p.stage = .failed fault
  uncancelled : (∀ time, w.ended ≠ some (time, .cancelled)) →
    ∀ p ∈ w.gate.probes, p.stage ≠ .cancelled

theorem Concludes.move (here : w.Concludes) (move : Move now w u) : u.Concludes := by
  cases move with
  | pass waiting settled =>
    refine ⟨fun _ _ => Gate.isOpen_of_verdict? settled, fun _ _ same => ?_, fun _ => ?_⟩
    · cases same
    · exact here.uncancelled (by simp [waiting])
  | fail waiting settled =>
    refine ⟨fun _ same => ?_, fun _ _ same => ?_, fun _ => here.uncancelled (by simp [waiting])⟩
    · cases same
    · cases same
      exact exists_failed_of_verdict settled
  | @turn before behind p q m due _ probes _ first turn =>
    have member : p ∈ w.gate.probes := by simp [probes]
    have going : p.isOver = false := by
      apply Bool.eq_false_iff.mpr
      intro finished
      cases first.symm.trans (Probe.wake_of_isOver finished)
    refine ⟨fun time finished => ?_, fun time fault finished => ?_, fun uncancelled r known => ?_⟩
    · have online := here.returned time finished p member
      cases stage : p.stage <;> simp [Probe.isOnline, Probe.isOver, stage] at online going
    · obtain ⟨r, known, failed⟩ := here.failed time fault finished
      obtain rfl | other := mem_turn probes known q
      · rw [Probe.isOver, failed] at going
        cases going
      · exact ⟨r, other, failed⟩
    · obtain rfl | ⟨-, same⟩ := mem_of_turn probes known
      · cases turn with
        | knock | pause | comeThrough | fail =>
          intro cancelled
          cases cancelled
        | rest => exact here.uncancelled uncancelled _ member
      · exact here.uncancelled uncancelled r same

theorem Concludes.cancel (here : w.Concludes) (now : Time) : (w.cancel now).Concludes := by
  cases finished : w.ended with
  | some ending => rw [cancel_of_ended finished]; exact here
  | none =>
    have cancelled := w.ended_cancel now
    rw [finished, Option.getD_none] at cancelled
    refine ⟨fun _ same => ?_, fun _ _ same => ?_, fun uncancelled => ?_⟩
    · cases cancelled.symm.trans same
    · cases cancelled.symm.trans same
    · exact absurd cancelled (uncancelled now)

theorem Concludes.course {h : Machine.History GateWait} (here : w.Concludes)
    (course : machine.Course now w h later u) : u.Concludes := by
  induction course with
  | start => exact here
  | act _ wakes ih => exact ih.move (move_act (awake_of_moment? wakes) _)
  | take _ _ _ _ ih => exact ih.cancel _

/-- What acts keep, and waiting once the wait has ended, holds as long as the wait is not cancelled. -/
theorem uncancelled_induction {P : Time → GateWait → Prop} {h : Machine.History GateWait} {began : Time}
    (course : machine.Course began w h now u) (uncancelled : ∀ time, u.ended ≠ some (time, .cancelled))
    (start : P began w)
    (move : ∀ now due t u, P now t → t.wake.moment? now = some due → Move due t u → P due u)
    (wait : ∀ now later t, P now t → t.ended ≠ none → now ≤ later →
      (∀ due, t.wake.moment? now = some due → later ≤ due) → P later t) : P now u := by
  induction course with
  | start => exact start
  | @act h now due t _ wakes ih =>
    have moves := move_act (awake_of_moment? wakes) due
    refine move now due t _ (ih fun time cancelled => ?_) wakes moves
    exact uncancelled time (ended_move moves cancelled)
  | @take h now moment t _ _ low high ih =>
    have same := t.ended_cancel moment
    rw [show (machine.take moment _ t).1 = t.cancel moment from rfl] at uncancelled ⊢
    cases finished : t.ended with
    | none =>
      rw [finished] at same
      exact absurd same (uncancelled moment)
    | some ending =>
      rw [cancel_of_ended finished] at uncancelled ⊢
      exact wait now moment t (ih uncancelled) (by simp [finished]) low high

/-- Every probe of a wait that was not cancelled stays on its script. -/
theorem OnScript.course {h : Machine.History GateWait} (here : w.OnScript peers plan retry now)
    (distinct : peers.Nodup) (timely : Timely peers plan retry)
    (course : machine.Course now w h later u) (uncancelled : ∀ time, u.ended ≠ some (time, .cancelled)) :
    u.OnScript peers plan retry later :=
  uncancelled_induction (P := fun now w => w.OnScript peers plan retry now) course uncancelled here
    (fun _ _ _ _ here wakes move => here.move distinct timely wakes move)
    fun _ _ _ here _ low high => here.wait low high

/-- Waits for some nodes, or for a single one, that have not begun yet. -/
inductive Awaits (retry : Span) (network : Network) : List Endpoint → GateWait → Prop where
  | all (peers : List Endpoint) : Awaits retry network peers (start peers retry network).1
  | single (peer : Endpoint) : Awaits retry network [peer] (startSingle peer retry network)

theorem Awaits.eq {retry : Span} {network : Network} (awaits : Awaits retry network peers w) :
    ∃ single, w = ⟨Gate.ofPeers peers retry 0, network, single,
      if peers.isEmpty then some (0, .returned ()) else none⟩ := by
  cases awaits with
  | all =>
    refine ⟨false, ?_⟩
    unfold start
    dsimp only
    split <;> rfl
  | single => exact ⟨true, rfl⟩

theorem Awaits.onScript {network : Network} (awaits : Awaits (.ms retry) network peers w)
    (untried : network.attempts = #[]) (counted : network.IsCounted) :
    w.OnScript peers network.plan retry 0 := by
  obtain ⟨single, rfl⟩ := awaits.eq
  refine ⟨rfl, rfl, counted, Gate.peers_ofPeers peers (.ms retry) 0, fun p member => ?_,
    fun p member => ?_⟩
  · obtain ⟨peer, -, rfl⟩ := List.mem_map.mp member
    exact Probe.follows_unstarted _ _ _
  · obtain ⟨peer, -, rfl⟩ := List.mem_map.mp member
    simp [Network.triedAt, Probe.knocks, untried]

theorem Awaits.concludes {retry : Span} {network : Network} (awaits : Awaits retry network peers w) :
    w.Concludes := by
  obtain ⟨single, rfl⟩ := awaits.eq
  refine ⟨fun time finished p member => ?_, fun time fault finished => ?_, fun _ p member => ?_⟩
  · obtain ⟨peer, known, -⟩ := List.mem_map.mp member
    cases peers with
    | nil => cases known
    | cons => cases finished
  · cases peers <;> cases finished
  · obtain ⟨peer, -, rfl⟩ := List.mem_map.mp member
    nofun

end GateWait

end BurstLoad
