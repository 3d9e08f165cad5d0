import BurstLoad.Proofs.Inbox
import BurstLoad.Session.Basic

/-! What a session does when it acts: one case for each way that an act can go, with all that has to hold
for it to go so. Beside it, what an input does to a session. -/

set_option autoImplicit false

namespace BurstLoad.Session

/-- Whether the next act is one of the main activity: no cancellation is to take effect, no connection has
its turn, and no probe goes on. -/
def goesOn (s : Session) (now : Time) : Bool :=
  !s.cancelling && (!s.inbox.hasWoken || s.isUnderWay now) && s.mainWake.earlier s.gate.wake = s.mainWake

inductive Move (now : Time) (s : Session) : Session → Prop where
  -- a cancellation takes effect, by what was opened before it
  | cancelEarly : s.cancelling = true →
    (s.stage = .fresh ∨ ∃ due result, s.stage = .dialing due result) →
    Move now s ({ s with cancelling := false }.finish now .cancelled)
  | cancelGate : s.cancelling = true → s.stage = .gathering →
    Move now s ({ s with cancelling := false, gate := s.gate.cancel }.finish now .cancelled)
  | cancelLink {link : Link} : s.cancelling = true →
    (s.stage = .connected link ∨ ∃ cause, s.stage = .winding link cause) →
    Move now s ({ s with cancelling := false }.wind now link .cancelled).1
  | cancelRun {run : Run} {link : Link} : s.cancelling = true → s.stage = .pacing run →
    run.carrier = .framed link →
    Move now s ({ s with cancelling := false, pacer := run.pacer }.wind now link .cancelled).1
  | cancelNothing : s.cancelling = true →
    (s.stage = .done ∨ ∃ run, s.stage = .pacing run ∧ ∀ link, run.carrier ≠ .framed link) →
    Move now s { s with cancelling := false }
  -- what goes on beside the main activity
  | turn : s.cancelling = false → s.goesOn now = false →
    Move now s { s with inbox := s.inbox.proceed.1, ahead := s.ahead - 1 }
  | probe : s.cancelling = false → s.goesOn now = false →
    Move now s { s with
      gate := (s.gate.act now s.network).1, network := (s.gate.act now s.network).2.1 }
  -- the main activity
  | gather : s.goesOn now = true → s.stage = .fresh → s.settings.nodes ≠ [] →
    Move now s { s with
      stage := .gathering, gate := Gate.ofPeers s.settings.nodes s.gate.retry now }
  | dial : s.goesOn now = true →
    (s.stage = .fresh ∧ s.settings.nodes = [] ∨
      s.stage = .gathering ∧ s.gate.verdict? = some (.ok ())) → Move now s (s.dial now)
  | giveUp {fault : Fault} : s.goesOn now = true → s.stage = .gathering →
    s.gate.verdict? = some (.error fault) → Move now s (s.finish now (.failed fault))
  | refuse {due : Option Time} {fault : Fault} : s.goesOn now = true →
    s.stage = .dialing due (.error fault) →
    Move now s (s.finish now (.failed (Link.connectFault s.settings.target fault)))
  | connect {due : Option Time} {plan : Network.WirePlan} : s.goesOn now = true →
    s.stage = .dialing due (.ok plan) →
    Move now s { s with stage := .connected { wire := { address := s.settings.target, plan } } }
  | bindFail {link : Link} {fault : Fault} : s.goesOn now = true → s.stage = .connected link →
    s.network.bindFault = some fault →
    Move now s { s with
      network := (s.network.bind ⟨s.inbox.host, s.inbox.port⟩).1
      stage := .winding link (.failed fault) }
  | listen {link : Link} : s.goesOn now = true → s.stage = .connected link →
    s.network.bindFault = none →
    Move now s { s with
      inbox := { s.inbox with bound := some (s.network.boundPort s.inbox.port) }
      network := (s.network.bind ⟨s.inbox.host, s.inbox.port⟩).1
      stage := .pacing (Run.start s.pacer (.framed link) s.stop s.maxBursts).1 }
  | pace {run : Run} : s.goesOn now = true → s.stage = .pacing run → run.isOver = false →
    Move now s { s with stage := .pacing (run.act now).1, ahead := s.inbox.woken.length }
  | leave {run : Run} {link : Link} : s.goesOn now = true → s.stage = .pacing run →
    run.isOver = true → run.carrier = .framed link →
    Move now s { s with pacer := run.pacer, stage := .winding link (causeOf run) }
  | wind {link : Link} {cause : Outcome Unit} : s.goesOn now = true →
    s.stage = .winding link cause → Move now s (s.wind now link cause).1
  | stay : s.goesOn now = true →
    (s.stage = .gathering ∨ s.stage = .done ∨
      ∃ run, s.stage = .pacing run ∧ run.isOver = true ∧ ∀ link, run.carrier ≠ .framed link) →
    Move now s s

variable {s : Session} {now : Time}

theorem cancelling_of_goesOn (own : s.goesOn now = true) : s.cancelling = false := by
  unfold goesOn at own
  simp only [Bool.and_eq_true, Bool.not_eq_true'] at own
  exact own.1.1

/-- Winding up closes the connection and ends the session, whatever the cause. -/
theorem wind_fst (s : Session) (now : Time) (link : Link) (cause : Outcome Unit) :
    ∃ outcome, (s.wind now link cause).1 =
      { s with
        inbox := s.inbox.stop.1
        closedLink := some link.close.1
        stage := .done
        ended := some (now, outcome) } := by
  unfold wind
  dsimp only
  split
  · exact ⟨_, rfl⟩
  · split <;> exact ⟨_, rfl⟩
  · exact ⟨_, rfl⟩

theorem stage_wind (s : Session) (now : Time) (link : Link) (cause : Outcome Unit) :
    (s.wind now link cause).1.stage = .done := by
  obtain ⟨outcome, same⟩ := s.wind_fst now link cause
  rw [same]

theorem move_cancel (cancelling : s.cancelling = true) : Move now s (s.cancel now).1 := by
  unfold cancel
  dsimp only
  split
  · next fresh => exact .cancelEarly cancelling (.inl fresh)
  · next dialing => exact .cancelEarly cancelling (.inr ⟨_, _, dialing⟩)
  · next gathering => exact .cancelGate cancelling gathering
  · next connected => exact .cancelLink cancelling (.inl connected)
  · next winding => exact .cancelLink cancelling (.inr ⟨_, winding⟩)
  · next run pacing =>
    unfold breakOff
    split
    · next framed => exact .cancelRun cancelling pacing framed
    · next bare => exact .cancelNothing cancelling (.inr ⟨run, pacing, by simp [bare]⟩)
  · next done => exact .cancelNothing cancelling (.inl done)

theorem move_actMain (own : s.goesOn now = true) : Move now s (s.actMain now).1 := by
  unfold actMain
  split
  · next fresh =>
    unfold begin
    dsimp only
    split
    · next none => exact .dial own (.inl ⟨fresh, List.isEmpty_iff.mp none⟩)
    · next some => exact .gather own fresh fun none => some (List.isEmpty_iff.mpr none)
  · next gathering =>
    split
    · next verdict settled =>
      cases verdict with
      | ok => exact .dial own (.inr ⟨gathering, settled⟩)
      | error fault => exact .giveUp own gathering settled
    · exact .stay own (.inl gathering)
  · next due result dialing =>
    cases result with
    | error fault => exact .refuse own dialing
    | ok plan => exact .connect own dialing
  · next link connected =>
    unfold listen
    cases fault? : s.network.bindFault with
    | some fault =>
      rw [s.inbox.start_of_fault fault?]
      exact .bindFail own connected fault?
    | none =>
      rw [s.inbox.start_of_free fault?]
      exact .listen own connected fault?
  · next run pacing =>
    split
    · next finished =>
      unfold leavePacing
      split
      · next framed => exact .leave own pacing finished framed
      · next bare => exact .stay own (.inr (.inr ⟨run, pacing, finished, by simp [bare]⟩))
    · next going => exact .pace own pacing (Bool.eq_false_iff.mpr going)
  · next winding => exact .wind own winding
  · next done => exact .stay own (.inr (.inl done))

theorem move_act (s : Session) (now : Time) : Move now s (s.act now).1 := by
  unfold act
  split
  · next cancelling => exact move_cancel cancelling
  · next uncut =>
    have going := Bool.eq_false_iff.mpr uncut
    split
    · next turn =>
      refine .turn going ?_
      rw [Bool.and_eq_true, Bool.not_eq_true'] at turn
      simp [goesOn, turn.1, turn.2]
    · next own =>
      rw [Bool.not_eq_true, ← Bool.not_inj_iff, Bool.not_and, Bool.not_not, Bool.not_false] at own
      split
      · next main =>
        apply move_actMain
        simp [goesOn, going, own, main]
      · next other =>
        apply Move.probe going
        simp [goesOn, other]

/-- An input asks a session to stop, or touches neither its stage nor the network. -/
theorem take_eq (s : Session) (now : Time) (input : Input) :
    (s.take now input).1 = s.requestStop ∨ ∃ inbox cancelling observations,
      (s.take now input).1 = { s with inbox, cancelling, observations } := by
  cases input with
  | stop | terminate => exact .inl rfl
  | cancel =>
    unfold take requestCancel
    dsimp only
    split
    · exact .inr ⟨s.inbox, s.cancelling, s.observations, rfl⟩
    · exact .inr ⟨_, true, s.observations, rfl⟩
  | interrupt => exact .inr ⟨s.inbox, true, s.observations, rfl⟩
  | connect name peer closeFault => exact .inr ⟨_, s.cancelling, s.observations, rfl⟩
  | deliver name event => exact .inr ⟨_, s.cancelling, s.observations, rfl⟩
  | observe => exact .inr ⟨s.inbox, s.cancelling, _, rfl⟩

end BurstLoad.Session
