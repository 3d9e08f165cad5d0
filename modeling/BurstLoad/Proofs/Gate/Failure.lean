import BurstLoad.Proofs.Gate.Waiting

/-! What a wait leaves behind that fails. Its end does not touch the other probes: none of them is
cancelled, and one that is not done goes on by itself. So nothing is left only if every probe
happened to be done before. -/

set_option autoImplicit false

namespace BurstLoad

namespace Probe

open Network (answerOf)

def isConnecting (p : Probe) : Bool :=
  match p.stage with
  | .connecting .. => true
  | _ => false

/-- A probe that will try once more, sooner or later. -/
def Retries (retry : Span) (p : Probe) : Prop :=
  match p.stage with
  | .unstarted _ => True
  | .pausing due => due ≠ none
  | .connecting _ result => retry ≠ .endless ∧ ∃ fault, answerOf result = .refused fault
  | .online | .failed _ | .cancelled => False

variable {p q : Probe} {retry : Span} {now : Time} {n m : Network}

theorem Retries.wakes (retries : p.Retries retry) : ∃ due, p.wake = .waking due := by
  unfold Retries at retries
  unfold wake
  cases stage : p.stage <;> simp only [stage] at retries
  case unstarted since => exact ⟨since, rfl⟩
  case connecting due _ => exact ⟨due, rfl⟩
  case pausing due =>
    obtain ⟨due, rfl⟩ := Option.ne_none_iff_exists'.mp retries
    exact ⟨due, rfl⟩

theorem not_retries_of_isOver (finished : p.isOver = true) : ¬ p.Retries retry := by
  intro retries
  obtain ⟨due, wakes⟩ := retries.wakes
  cases wakes.symm.trans (wake_of_isOver finished)

theorem after_eq_none_iff : retry.after now = none ↔ retry = .endless := by
  cases retry <;> simp [Span.after]

/-- With its turn a probe either tries again or has its answer, and the answer was settled before. -/
theorem Turn.tries_or_settles (turn : Turn retry now n p m q) {due : Time}
    (wakes : p.wake = .waking due) :
    p.Retries retry ∧ m.attempts = n.attempts.push (now, p.peer) ∨
      m.attempts = n.attempts ∧ p.isConnecting = true ∧ q.isConnecting = false ∧
        (q.Retries retry ↔ p.Retries retry) := by
  cases turn with
  | knock place =>
    refine .inl ⟨?_, rfl⟩
    obtain ⟨since, stage⟩ | ⟨due, stage⟩ := place
    · simp only [Retries, stage]
    · rw [wake, stage] at wakes
      simp only [Retries, stage]
      rintro rfl
      cases wakes
  | pause connecting refused =>
    refine .inr ⟨rfl, by rw [isConnecting, connecting], rfl, ?_⟩
    simp [Retries, connecting, refused, after_eq_none_iff]
  | comeThrough connecting accepted untried =>
    refine .inr ⟨untried.attempts, by rw [isConnecting, connecting], rfl, ?_⟩
    simp [Retries, connecting, accepted]
  | fail connecting broken untried =>
    refine .inr ⟨untried.attempts, by rw [isConnecting, connecting], rfl, ?_⟩
    simp [Retries, connecting, broken]
  | rest finished =>
    rw [wake_of_isOver finished] at wakes
    cases wakes

end Probe

namespace GateWait

variable {w u : GateWait} {now later due : Time} {ending : Time × Outcome Unit}

/-- No probe is under way, and nobody is tried any more. -/
structure LeavesNothing (now : Time) (w : GateWait) : Prop where
  finished : ∀ p ∈ w.gate.probes, p.isOver = true
  quiet : ∀ h later u, machine.Course now w h later u → u.network.attempts = w.network.attempts

/-- What is left of a wait that has failed. -/
structure AfterFailure (fault : Fault) (now : Time) (w : GateWait) : Prop where
  failed : ∃ p ∈ w.gate.probes, p.stage = .failed fault
  uncancelled : ∀ h later u, machine.Course now w h later u →
    u.ended = w.ended ∧ ∀ p ∈ u.gate.probes, p.stage ≠ .cancelled
  tries : (∃ h later u, machine.Course now w h later u ∧
      u.network.attempts ≠ w.network.attempts) ↔ ∃ p ∈ w.gate.probes, p.Retries w.gate.retry
  leaves : w.LeavesNothing now ↔ ∀ p ∈ w.gate.probes, p.isOver = true

theorem awake_of_retries {p : Probe} (member : p ∈ w.gate.probes) (retries : p.Retries w.gate.retry)
    (finished : w.ended = some ending) (now : Time) : ∃ due, w.wake.moment? now = some due := by
  obtain ⟨time, wakes⟩ := retries.wakes
  rw [wake_eq (by simp [finished])]
  obtain ⟨-, idle⟩ | ⟨due, wake, -⟩ := w.gate.wake_cases
  · cases wakes.symm.trans (idle p member)
  · exact ⟨_, by rw [wake]; rfl⟩

/-- Left to itself, a probe that will try again does so, once the answers before it are in. -/
theorem exists_attempt {p : Probe} (member : p ∈ w.gate.probes) (retries : p.Retries w.gate.retry)
    (finished : w.ended = some ending) :
    ∃ h later u, machine.Course now w h later u ∧ u.network.attempts ≠ w.network.attempts := by
  -- Each act that is not an attempt is an answer, so that one probe less waits for one.
  induction waiting : w.gate.probes.countP Probe.isConnecting using Nat.strongRecOn
    generalizing now w p with
  | ind bound ih =>
    obtain ⟨due, wakes⟩ := awake_of_retries member retries finished now
    have course := Machine.Course.start.act (m := machine) wakes
    have move := move_act (awake_of_moment? wakes) due
    rw [show machine.act due w = w.act due from rfl] at course
    generalize (w.act due).1 = u at course move
    cases move with
    | pass unended | fail unended => cases finished.symm.trans unended
    | @turn before behind q r m time _ probes _ own turn =>
      obtain ⟨-, tried⟩ | ⟨untried, connecting, settled, same⟩ := turn.tries_or_settles own
      · refine ⟨_, _, _, course, fun unchanged => ?_⟩
        have longer := congrArg Array.size (tried.symm.trans unchanged)
        simp at longer
      · obtain ⟨s, known, again⟩ : ∃ s ∈ before ++ r :: behind, s.Retries w.gate.retry := by
          obtain rfl | other := mem_turn probes member r
          · exact ⟨r, by simp, same.mpr retries⟩
          · exact ⟨p, other, retries⟩
        have fewer : (before ++ r :: behind).countP Probe.isConnecting < bound := by
          rw [← waiting, probes]
          simp [connecting, settled]
        obtain ⟨h, later, v, onward, changed⟩ := @ih _ fewer
          ⟨⟨w.gate.retry, before ++ r :: behind⟩, m, w.single, w.ended⟩ due s known again finished rfl
        exact ⟨_, later, v, course.append onward, untried ▸ changed⟩

/-- Nobody tries any more. -/
structure IsQuiet (n : Network) (w : GateWait) : Prop where
  finished : w.ended.isSome
  settled : ∀ p ∈ w.gate.probes, ¬ p.Retries w.gate.retry
  attempts : w.network.attempts = n.attempts

theorem IsQuiet.course {n : Network} {h : Machine.History GateWait} (quiet : w.IsQuiet n)
    (course : machine.Course now w h later u) : u.IsQuiet n := by
  induction course with
  | start => exact quiet
  | @act h now due t _ wakes ih =>
    have move := move_act (awake_of_moment? wakes) due
    rw [show machine.act due t = t.act due from rfl]
    generalize (t.act due).1 = u at move
    cases move with
    | pass unended | fail unended =>
      have finished := ih.finished
      rw [unended] at finished
      cases finished
    | @turn before behind p q m _ _ probes _ own turn =>
      have still := ih.settled p (by simp [probes])
      obtain ⟨again, -⟩ | ⟨untried, -, -, same⟩ := turn.tries_or_settles own
      · exact absurd again still
      · refine ⟨ih.finished, fun r known => ?_, untried.trans ih.attempts⟩
        obtain rfl | ⟨-, other⟩ := mem_of_turn probes known
        · exact fun again => still (same.mp again)
        · exact ih.settled r other
  | @take h now moment t _ before low high ih =>
    obtain ⟨ending, finished⟩ := Option.isSome_iff_exists.mp ih.finished
    rw [show (machine.take moment _ t).1 = t.cancel moment from rfl, cancel_of_ended finished]
    exact ih

theorem afterFailure_of_ended {retry : Span} {network : Network} {peers : List Endpoint}
    {start : GateWait} {h : Machine.History GateWait} {time : Time} {fault : Fault}
    (awaits : Awaits retry network peers start) (course : machine.Course 0 start h now w)
    (failed : w.ended = some (time, .failed fault)) : w.AfterFailure fault now := by
  have concludes := awaits.concludes.course course
  have quiet (settled : ∀ p ∈ w.gate.probes, ¬ p.Retries w.gate.retry) : w.IsQuiet w.network :=
    ⟨by rw [failed]; rfl, settled, rfl⟩
  refine ⟨concludes.failed time fault failed, fun h later u onward => ?_, ?_, ?_⟩
  · have ended := ended_of_course failed onward
    refine ⟨ended.trans failed.symm, (concludes.course onward).uncancelled ?_⟩
    simp [ended]
  · constructor
    · intro ⟨h, later, u, onward, changed⟩
      apply Classical.byContradiction
      intro settled
      have still := quiet fun p member again => settled ⟨p, member, again⟩
      exact changed (still.course onward).attempts
    · intro ⟨p, member, retries⟩
      exact exists_attempt member retries failed
  · refine ⟨LeavesNothing.finished, fun finished => ⟨finished, fun h later u onward => ?_⟩⟩
    have still := quiet fun p member => Probe.not_retries_of_isOver (finished p member)
    exact (still.course onward).attempts

/-- The first attempt at the node ends with an error that no network knows. -/
def brokenNode : Endpoint := ⟨"10.0.0.1", 9000⟩

def lateNode : Endpoint := ⟨"10.0.0.2", 9000⟩

def oddFault : Fault := .other "RuntimeError" "odd"

def brokenNetwork : Network where
  plan e place :=
    if e = brokenNode then ⟨5, .error oddFault⟩
    else match place with
      | 0 => ⟨0, .error (.network "ConnectionRefusedError" "refused")⟩
      | _ => {}

/-- The wait when it has just failed, with its history and the clock. -/
def brokenWait : Machine.History GateWait × Time × GateWait :=
  machine.alone 5 0 (start [brokenNode, lateNode] (.ms 10) brokenNetwork).1

theorem afterFailure_brokenWait :
    brokenWait.2.2.ended = some (5, .failed oddFault) ∧
      brokenWait.2.2.AfterFailure oddFault brokenWait.2.1 := by
  have ended : brokenWait.2.2.ended = some (5, .failed oddFault) := by decide +kernel
  exact ⟨ended, afterFailure_of_ended (.all [brokenNode, lateNode]) (machine.alone_course 5 0 _) ended⟩

/-- The wait has failed at 5, and at 10 its other probe tries again. -/
theorem not_leavesNothing_brokenWait :
    let next := machine.alone 1 brokenWait.2.1 brokenWait.2.2
    brokenWait.2.2.ended = some (5, .failed oddFault) ∧
      brokenWait.2.2.network.attempts = #[(0, brokenNode), (0, lateNode)] ∧
      next.2.2.network.attempts = #[(0, brokenNode), (0, lateNode), (10, lateNode)] ∧
      ¬ brokenWait.2.2.LeavesNothing brokenWait.2.1 := by
  intro next
  have before : brokenWait.2.2.network.attempts = #[(0, brokenNode), (0, lateNode)] := by
    decide +kernel
  have after : next.2.2.network.attempts =
      #[(0, brokenNode), (0, lateNode), (10, lateNode)] := by decide +kernel
  refine ⟨by decide +kernel, before, after, fun leaves => ?_⟩
  have unchanged := leaves.quiet _ _ _ (machine.alone_course 1 brokenWait.2.1 brokenWait.2.2)
  have longer := congrArg Array.size (after.symm.trans (unchanged.trans before))
  cases longer

end GateWait

end BurstLoad
