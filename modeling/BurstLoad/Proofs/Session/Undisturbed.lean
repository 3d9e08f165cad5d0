import BurstLoad.Proofs.Inbox.Aside
import BurstLoad.Proofs.Session.TearDown
import BurstLoad.Proofs.Veil

/-! Inbound connections do not disturb a session. Whatever comes to its listener, the session makes the
same attempts, sends the same bytes at the same times, counts the same and ends alike; and unless its
receiver is verbose, what it logs for information is the same too. -/

set_option autoImplicit false

namespace BurstLoad

/-- What is due now is due now also if something else is due before. -/
theorem Wake.moment?_earlier {w other : Wake} {now : Time} (due : w.moment? now = some now) :
    (w.earlier other).moment? now = some now := by
  cases w with
  | running => cases other <;> rfl
  | idle => cases due
  | waking time =>
    have past : time ≤ now := by
      rw [← Option.some.inj due]
      exact now.le_later_right time
    cases other with
    | running => rfl
    | idle => exact due
    | waking moment =>
      by_cases first : time ≤ moment
      · simpa [earlier, first] using due
      · have before := Rat.le_trans (Rat.le_of_lt (Rat.not_le.mp first)) past
        simp [earlier, first, moment?, Time.later_of_ge before]

namespace Session

/-- Whether an input comes to the listener from outside. -/
def Input.isInbound : Input → Bool
  | .connect _ _ _ | .deliver _ _ => true
  | _ => false

/-- A session without its inbound connections. -/
def quiet (s : Session) : Session :=
  { s with inbox := s.inbox.emptied, ahead := 0 }

/-- The veil between a session and its inbound connections. -/
def veil (verbose : Bool) : Veil Session Input where
  look := quiet
  hides := Input.isInbound
  shows n := !n.isAside verbose
  load s := s.inbox.woken.length
  sound s := s.inbox.receiver.verbose = verbose

/-- Whether the next act is the session's own and not the turn of a connection. -/
def actsItself (s : Session) (now : Time) : Bool :=
  s.cancelling || !s.inbox.hasWoken || s.isUnderWay now

/-- What a session with a listener does, beside what it does without its inbound connections. -/
structure Echoes (i : Inbox) (r q : Session × List Notice) : Prop where
  look : q.1 = r.1.quiet
  woken : r.1.inbox.woken = i.woken
  receiver : r.1.inbox.receiver = i.receiver
  notices : ∀ verbose, q.2.filter (fun n => !n.isAside verbose) =
    r.2.filter fun n => !n.isAside verbose

section Act

theorem filter_asides {verbose : Bool} {notices : List Notice}
    (asides : ∀ n ∈ notices, n.isAside verbose = true) :
    (notices.filter fun n => !n.isAside verbose) = [] := by
  rw [List.filter_eq_nil_iff]
  intro n member
  simp [asides n member]

variable (s : Session)

theorem echoes_begin (now : Time) : Echoes s.inbox (s.begin now) (s.quiet.begin now) := by
  unfold begin
  cases none : s.settings.nodes.isEmpty
  all_goals
    simp only [quiet, none]
    exact ⟨rfl, rfl, rfl, fun _ => rfl⟩

theorem echoes_leaveGate (now : Time) (verdict : Except Fault Unit) :
    Echoes s.inbox (s.leaveGate now verdict) (s.quiet.leaveGate now verdict) := by
  cases verdict <;> exact ⟨rfl, rfl, rfl, fun _ => rfl⟩

theorem echoes_answer (now : Time) (result : Except Fault Network.WirePlan) :
    Echoes s.inbox (s.answer now result) (s.quiet.answer now result) := by
  cases result <;> exact ⟨rfl, rfl, rfl, fun _ => rfl⟩

theorem echoes_listen (link : Link) : Echoes s.inbox (s.listen link) (s.quiet.listen link) := by
  unfold listen
  cases refused : s.network.bindFault with
  | some fault =>
    rw [s.inbox.start_of_fault refused, s.quiet.inbox.start_of_fault (n := s.quiet.network) refused]
    exact ⟨rfl, rfl, rfl, fun _ => rfl⟩
  | none =>
    rw [s.inbox.start_of_free refused, s.quiet.inbox.start_of_free (n := s.quiet.network) refused]
    exact ⟨rfl, rfl, rfl, fun _ => rfl⟩

theorem echoes_leavePacing (run : Run) :
    Echoes s.inbox (s.leavePacing run, []) (s.quiet.leavePacing run, []) := by
  unfold leavePacing
  split <;> exact ⟨rfl, rfl, rfl, fun _ => rfl⟩

/-- Winding up closes inbound connections as well, which leaves nothing but asides. -/
theorem echoes_wind (now : Time) (link : Link) (cause : Outcome Unit) :
    Echoes s.inbox (s.wind now link cause) (s.quiet.wind now link cause) := by
  obtain ⟨stopped, asides, noted, hidden⟩ := s.inbox.stop_emptied
  have woken := s.inbox.woken_stop
  have receiver := s.inbox.receiver_stop
  have silent (verbose : Bool) := filter_asides (hidden verbose)
  unfold wind
  simp only [quiet, stopped, noted]
  split
  · exact ⟨rfl, woken, receiver, fun verbose => by simp [silent]⟩
  · split <;> exact ⟨rfl, woken, receiver, fun verbose => by simp [silent]⟩
  · exact ⟨rfl, woken, receiver, fun verbose => by simp [silent]⟩

theorem echoes_actMain (now : Time) :
    Echoes s.inbox (s.actMain now) (s.quiet.actMain now) := by
  have stage : s.quiet.stage = s.stage := rfl
  have gate : s.quiet.gate = s.gate := rfl
  unfold actMain
  rw [stage, gate]
  cases s.stage with
  | fresh => exact s.echoes_begin now
  | gathering =>
    cases s.gate.verdict? with
    | some verdict => exact s.echoes_leaveGate now verdict
    | none => exact ⟨rfl, rfl, rfl, fun _ => rfl⟩
  | dialing due result => exact s.echoes_answer now result
  | connected link => exact s.echoes_listen link
  | pacing run =>
    dsimp only
    split
    · exact s.echoes_leavePacing run
    · exact ⟨rfl, rfl, rfl, fun _ => rfl⟩
  | winding link cause => exact s.echoes_wind now link cause
  | done => exact ⟨rfl, rfl, rfl, fun _ => rfl⟩

theorem echoes_cancel (now : Time) : Echoes s.inbox (s.cancel now) (s.quiet.cancel now) := by
  have stage : s.quiet.stage = s.stage := rfl
  unfold cancel
  dsimp only
  rw [stage]
  cases s.stage with
  | fresh | dialing => exact ⟨rfl, rfl, rfl, fun _ => rfl⟩
  | gathering => exact ⟨rfl, rfl, rfl, fun _ => rfl⟩
  | connected link | winding link =>
    exact echoes_wind { s with cancelling := false } now link .cancelled
  | pacing run =>
    unfold breakOff
    dsimp only
    split
    · next link _ =>
      exact echoes_wind { s with cancelling := false, pacer := run.pacer } now link .cancelled
    · exact ⟨rfl, rfl, rfl, fun _ => rfl⟩
  | done => exact ⟨rfl, rfl, rfl, fun _ => rfl⟩

/-- What is under way has come to its moment. -/
theorem moment?_of_isUnderWay {now : Time} (underWay : s.isUnderWay now = true) :
    (s.mainWake.earlier s.gate.wake).moment? now = some now := by
  apply Wake.moment?_earlier
  unfold isUnderWay at underWay
  unfold mainWake
  split at underWay
  · next stage => rw [stage]; rfl
  · next stage => rw [stage]; rfl
  · next run stage =>
    rw [stage]
    dsimp only
    cases phase : run.phase with
    | looking | sending => simp [Run.isOver, Run.wake, phase, Wake.moment?]
    | ended | cancelled => simp [Run.isOver, phase, Wake.moment?]
    | inFlight burst left flight due =>
      have atOnce : flight.delay ≤ 0 := by simpa [phase] using underWay
      simp [Run.isOver, Run.wake, phase, Wake.moment?, atOnce]
    | resting due =>
      simp only [Run.isOver, Run.wake, phase, Bool.false_eq_true, if_false]
      split
      · rfl
      · cases due with
        | none => simp [phase] at underWay
        | some due =>
          have past : due ≤ now := by
            simp only [phase, Bool.and_eq_true, Option.any_some, decide_eq_true_eq] at underWay
            exact underWay.2
          simp [Wake.ofTime?, Wake.moment?, Time.later_of_ge past]
  · cases underWay

theorem wake_quiet : s.quiet.wake =
    if s.cancelling then .running else s.mainWake.earlier s.gate.wake := by
  unfold wake
  have unwoken : s.quiet.inbox.hasWoken = false := rfl
  rw [unwoken, Bool.or_false]
  rfl

/-- Unless it is the turn of a connection, the session acts as if there were none. -/
theorem echoes_act {now : Time} (own : s.actsItself now = true) :
    Echoes s.inbox (s.act now) (s.quiet.act now) := by
  have unwoken : s.quiet.inbox.hasWoken = false := rfl
  have same : s.quiet.cancelling = s.cancelling ∧ s.quiet.mainWake = s.mainWake ∧
    s.quiet.gate = s.gate ∧ s.quiet.network = s.network := ⟨rfl, rfl, rfl, rfl⟩
  obtain ⟨cancelling, main, gate, network⟩ := same
  unfold act
  rw [cancelling, main, gate, network, unwoken]
  by_cases cut : s.cancelling = true
  · rw [if_pos cut, if_pos cut]
    exact s.echoes_cancel now
  · have others : (s.inbox.hasWoken && !s.isUnderWay now) = false := by
      rw [actsItself, Bool.eq_false_iff.mpr cut, Bool.false_or] at own
      rw [← Bool.not_inj_iff, Bool.not_and, Bool.not_not, own]
      rfl
    rw [if_neg cut, if_neg cut, others, Bool.false_and]
    simp only [Bool.false_eq_true, if_false]
    split
    · exact s.echoes_actMain now
    · exact ⟨rfl, rfl, rfl, fun _ => rfl⟩

/-- What the session does itself is due without its connections too. -/
theorem due_of_actsItself {now : Time} (own : s.actsItself now = true) :
    s.inbox.woken.length = 0 ∨ s.quiet.wake.moment? now = some now := by
  rw [wake_quiet]
  by_cases cut : s.cancelling = true
  · right
    rw [if_pos cut]
    rfl
  · rw [if_neg cut]
    simp only [actsItself, Bool.eq_false_iff.mpr cut, Bool.false_or, Bool.or_eq_true] at own
    apply own.imp
    · intro unwoken
      simpa [Inbox.hasWoken] using unwoken
    · exact s.moment?_of_isUnderWay

/-- The turn of a connection. -/
theorem act_of_turn {now : Time} (turn : s.actsItself now = false) :
    s.inbox.hasWoken = true ∧
      s.act now =
        ({ s with inbox := s.inbox.proceed.1, ahead := s.ahead - 1 }, s.inbox.proceed.2) := by
  simp only [actsItself, Bool.or_eq_false_iff] at turn
  obtain ⟨⟨uncut, woken⟩, waits⟩ := turn
  have busy : s.inbox.hasWoken = true := by simpa using woken
  exact ⟨busy, by simp [act, uncut, busy, waits]⟩

end Act

section Take

variable (s : Session)

theorem echoes_requestStop (notices : List Notice) :
    Echoes s.inbox (s.requestStop, notices) (s.quiet.requestStop, notices) := by
  have stage : s.quiet.stage = s.stage := rfl
  unfold requestStop
  rw [stage]
  cases s.stage <;> exact ⟨rfl, rfl, rfl, fun _ => rfl⟩

theorem quiet_inbound {input : Input} (inbound : input.isInbound = true) (now : Time) :
    (s.take now input).1.quiet = s.quiet ∧ (s.take now input).1.inbox.receiver = s.inbox.receiver ∧
      (s.take now input).2 = [] := by
  cases input with
  | connect name peer closeFault =>
    obtain ⟨emptied, receiver⟩ := s.inbox.emptied_accept name peer closeFault
    exact ⟨by simp only [take, quiet, emptied], receiver, rfl⟩
  | deliver name event =>
    obtain ⟨emptied, receiver⟩ := s.inbox.emptied_deliver name event
    exact ⟨by simp only [take, quiet, emptied], receiver, rfl⟩
  | stop | terminate | cancel | interrupt | observe => cases inbound

/-- A cancellation lets connections have their turns first, of which nothing shows. -/
theorem requestCancel_quiet : s.quiet.requestCancel.1 = s.requestCancel.1.quiet ∧
    s.requestCancel.1.inbox.receiver.verbose = s.inbox.receiver.verbose ∧
      s.quiet.requestCancel.2 = [] ∧
        ∀ n ∈ s.requestCancel.2, n.isAside s.inbox.receiver.verbose = true := by
  have stopping : s.quiet.isStopping = s.isStopping := rfl
  have within := s.inbox.within_settle
  unfold requestCancel
  rw [stopping]
  cases s.isStopping with
  | true => exact ⟨rfl, rfl, rfl, nofun⟩
  | false =>
    refine ⟨?_, within.verbose, rfl, within.asides⟩
    simp only [Bool.false_eq_true, if_false, quiet, within.emptied]
    rfl

end Take

theorem parts_veil (verbose : Bool) : (veil verbose).Parts machine where
  sound_act now s sound := by
    change (s.act now).1.inbox.receiver.verbose = verbose
    cases own : s.actsItself now with
    | true =>
      rw [(s.echoes_act own).receiver]
      exact sound
    | false =>
      rw [(s.act_of_turn own).2]
      exact s.inbox.within_proceed.verbose.trans sound
  sound_take now input s sound := by
    change (s.take now input).1.inbox.receiver.verbose = verbose
    cases input with
    | connect | deliver =>
      rw [(s.quiet_inbound rfl now).2.1]
      exact sound
    | stop | terminate =>
      have kept := (s.echoes_requestStop []).receiver
      exact (congrArg Receiver.verbose kept).trans sound
    | cancel => exact s.requestCancel_quiet.2.1.trans sound
    | interrupt | observe => exact sound
  wake_of_load s busy := by
    have woken : s.inbox.hasWoken = true := by
      simpa [Inbox.hasWoken, veil] using busy
    change s.wake = .running
    rw [wake, woken, Bool.or_true, if_pos rfl]
  wake s idle := by
    have unwoken : s.inbox.hasWoken = false := by
      simpa [Inbox.hasWoken, veil] using idle
    change s.quiet.wake = s.wake
    rw [wake_quiet, wake, unwoken, Bool.or_false]
  act now s sound := by
    cases own : s.actsItself now with
    | true =>
      right
      have echoes := s.echoes_act own
      refine ⟨?_, echoes.look, echoes.notices verbose, s.due_of_actsItself own⟩
      exact Nat.le_of_eq (congrArg List.length echoes.woken)
    | false =>
      left
      obtain ⟨busy, step⟩ := s.act_of_turn own
      have within := s.inbox.within_proceed
      refine ⟨?_, ?_, ?_⟩
      · change (s.act now).1.inbox.woken.length < s.inbox.woken.length
        rw [step]
        exact s.inbox.length_woken_proceed busy
      · change (s.act now).1.quiet = s.quiet
        simp only [step, quiet, within.emptied]
      · change (s.act now).2.filter (fun n => !n.isAside verbose) = []
        rw [step]
        exact filter_asides (sound ▸ within.asides)
  hidden now input s inbound := by
    obtain ⟨look, -, none⟩ := s.quiet_inbound inbound now
    refine ⟨look, ?_⟩
    change (s.take now input).2.filter _ = []
    rw [none]
    rfl
  shown now input s sound outbound := by
    cases input with
    | connect | deliver => cases outbound
    | stop =>
      have echoes := s.echoes_requestStop []
      exact ⟨echoes.look, echoes.notices verbose⟩
    | terminate signal =>
      have echoes := s.echoes_requestStop [signalNotice signal]
      exact ⟨echoes.look, echoes.notices verbose⟩
    | cancel =>
      obtain ⟨look, -, none, asides⟩ := s.requestCancel_quiet
      refine ⟨look, ?_⟩
      change s.quiet.requestCancel.2.filter _ = s.requestCancel.2.filter fun n => !n.isAside verbose
      rw [none, filter_asides (sound ▸ asides)]
      rfl
    | interrupt | observe => exact ⟨rfl, rfl⟩

/-- A session after so many steps, or where it came to rest before. -/
def played (s : Session) (inputs : List (Time × Input)) (limit : Time)
    (enough : Option (Time × Outcome Unit) → Bool) (steps : Nat) : Simulation Session Input :=
  (Simulation.scripted s 0 inputs).run machine limit (fun t => enough t.ended) steps

/-- A session that is simulated to its end is one that was played long enough. -/
theorem simulate_eq_played {s : Session} {inputs : List (Time × Input)} {limit : Time}
    {enough : Option (Time × Outcome Unit) → Bool}
    (ended : (s.played inputs limit enough Simulation.plenty).state.isOver = true) :
    s.simulate inputs limit (fun t => enough t.ended) =
      (s.played inputs limit enough Simulation.plenty, true) := by
  unfold simulate
  rw [Simulation.drive_eq]
  exact if_pos ended

/-- Two sessions with the same measurement: what they tried and sent and when, what they counted, how
they ended and what others than the listener logged; and, if no frame is noted, all that was logged
for information. -/
structure MeasuresAlike (honest : Bool) (a b : Simulation Session Input) : Prop where
  network : a.state.network = b.state.network
  link : a.state.link? = b.state.link?
  pacer : a.state.currentPacer = b.state.currentPacer
  ended : a.state.ended = b.state.ended
  observations : a.state.observations = b.state.observations
  others : (a.journal.heard fun n => n.part ≠ .listener) =
    b.journal.heard fun n => n.part ≠ .listener
  informed : honest = false →
    (a.journal.heard fun n => n.level = .info) = b.journal.heard fun n => n.level = .info

theorem measuresAlike_of_alike {honest : Bool} {a b : Simulation Session Input}
    (alike : (veil honest).Alike a b) : MeasuresAlike honest a b := by
  have same : a.state.quiet = b.state.quiet := alike.state
  have seen {α : Type} (part : Session → α) (blind : ∀ s, part s.quiet = part s) :
      part a.state = part b.state := by
    rw [← blind, same, blind]
  refine ⟨seen _ fun _ => rfl, seen _ fun _ => rfl, seen _ fun _ => rfl, seen _ fun _ => rfl,
    seen _ fun _ => rfl, ?_, fun silent => ?_⟩
  · refine alike.heard fun n other => ?_
    have part : n.part ≠ .listener := by simpa using other
    simp [veil, Notice.isAside, part]
  · subst silent
    refine alike.heard fun n info => ?_
    have level : n.level = .info := by simpa using info
    simp [veil, Notice.isAside, level]

/-- Two runs of sessions, each by where it stands after so many steps, with the same measurement: each
point of the first has its counterpart in the second, which rests if the first one does, and where
both rest they are alike. -/
structure IsUndisturbed (honest : Bool) (limit : Time) (enough : Option (Time × Outcome Unit) → Bool)
    (a b : Nat → Simulation Session Input) : Prop where
  counterpart : ∀ n, ∃ k, MeasuresAlike honest (a n) (b k) ∧
    ((a n).Rests machine limit (fun t => enough t.ended) →
      (b k).Rests machine limit fun t => enough t.ended)
  atRest : ∀ n k, (a n).Rests machine limit (fun t => enough t.ended) →
    (b k).Rests machine limit (fun t => enough t.ended) → MeasuresAlike honest (a n) (b k)

/-- Two runs of one session that differ only in what comes to its listener have the same
measurement. -/
theorem isUndisturbed_of_inbound {settings : Settings} {counters : Payload.Counters}
    {network : Network} {s : Session} {stop : Bool} {maxBursts : Option Int}
    {inputs others : List (Time × Input)} {limit : Time}
    (built : ofSettings? settings counters { verbose := settings.honest } network = .ok s)
    (same : (inputs.filter fun input => !input.2.isInbound) =
      others.filter fun input => !input.2.isInbound)
    (soon : 0 ≤ limit) (enough : Option (Time × Outcome Unit) → Bool) :
    IsUndisturbed settings.honest limit enough ({ s with stop, maxBursts }.played inputs limit enough)
      ({ s with stop, maxBursts }.played others limit enough) := by
  obtain ⟨g, p, -, -, shape⟩ := eq_of_ofSettings? built
  have parts := parts_veil settings.honest
  have sound : (veil settings.honest).sound { s with stop, maxBursts } := by
    rw [shape]
    rfl
  have idle : (veil settings.honest).load { s with stop, maxBursts } = 0 := by
    rw [shape]
    rfl
  refine ⟨fun n => ?_, fun n k first second => ?_⟩
  · obtain ⟨k, alike, done⟩ := parts.counterpart (fun t => enough t.ended) (fun _ => rfl) sound idle soon
      same n
    exact ⟨k, measuresAlike_of_alike alike, done⟩
  · have alike := parts.alike_of_rests (fun t => enough t.ended) (fun _ => rfl) sound idle soon same
      first second
    exact measuresAlike_of_alike alike

/-- A stop request in the second burst, and a connection on which a whole frame comes, half a header
and an error. -/
def besieged : List (Time × Input) :=
  [(250, .connect "a" none none), (250, .deliver "a" (.feed [0, 0, 0, 1, 97, 0, 0])),
    (1000, .deliver "a" (.reset (.network "ConnectionResetError" "reset"))), (1200, .stop)]

/-- The session of two fillers takes the frame, and goes on as if nobody had come. -/
theorem isUndisturbed_besieged : ∃ s a b,
    ofSettings? twoFillers ⟨7, 0, 0⟩ { verbose := twoFillers.honest } {} = .ok s ∧
      { s with stop := false, maxBursts := none }.played [(1200, .stop)] 5000 Option.isSome 40 = a ∧
      { s with stop := false, maxBursts := none }.played besieged 5000 Option.isSome 40 = b ∧
      a.state.inbox.receiver.frames = 0 ∧ b.state.inbox.receiver.frames = 1 ∧
      a.state.ended.isSome = true ∧ MeasuresAlike false a b := by
  have built := ofSettings?_twoFillers {}
  have same : ([(1200, Input.stop)].filter fun input => !input.2.isInbound) =
      besieged.filter fun input => !input.2.isInbound := rfl
  have soon : (0 : Time) ≤ 5000 := by decide
  have inOrder : besieged.Pairwise fun first second => first.1 ≤ second.1 := by
    unfold besieged
    decide +kernel
  have onward : ({ ofTwoFillers {} with stop := false, maxBursts := none }.played besieged 5000
      Option.isSome 40).state.inbox.receiver.frames = 1 ∧
      ({ ofTwoFillers {} with stop := false, maxBursts := none }.played besieged 5000
        Option.isSome 40).state.ended.isSome = true := by
    rw [played, Simulation.scripted_of_sorted _ 0 inOrder]
    decide +kernel
  refine ⟨_, _, _, built, rfl, rfl, by decide +kernel, onward.1, by decide +kernel, ?_⟩
  exact (isUndisturbed_of_inbound built same soon Option.isSome).atRest 40 40
    (.inl (by decide +kernel)) (.inl onward.2)

end Session

end BurstLoad
