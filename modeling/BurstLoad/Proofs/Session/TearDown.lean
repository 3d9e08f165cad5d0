import BurstLoad.Proofs.Session.Order

/-! The end of a session that had a connection. Whatever ends it, the listener is stopped first and the
connection is then closed, once; what the session reports is what its pacer came to, and an error
met while closing changes nothing of that. -/

set_option autoImplicit false

namespace BurstLoad

/-- The only errors of a connection are those of the network. -/
structure Network.WirePlan.IsPlain (plan : Network.WirePlan) : Prop where
  writes : ∀ k fault, (plan.writes k).fault = some fault → fault.isNetwork = true
  close : ∀ fault, plan.closeFault = some fault → fault.isNetwork = true

theorem Network.Wire.write_of_isPlain {w : Network.Wire} (plain : w.plan.IsPlain) (now : Time)
    (bytes : Bytes) :
    (w.write now bytes).1.plan = w.plan ∧ (w.write now bytes).1.closes = w.closes ∧
      (∀ fault, (w.write now bytes).2 = .error fault → fault.isNetwork = true) ∧
      ∀ draining fault, (w.write now bytes).2 = .ok draining → draining.fault = some fault →
        fault.isNetwork = true := by
  have sound := plain.writes w.writes
  unfold write
  dsimp only
  split
  · next met =>
    refine ⟨rfl, rfl, fun fault same => ?_, nofun⟩
    cases same
    exact sound _ met
  · refine ⟨rfl, rfl, nofun, fun draining fault same met => ?_⟩
    cases same
    exact sound fault met

theorem Fault.isTransport_onConnection {fault : Fault} (network : fault.isNetwork = true) :
    fault.onConnection.isTransport = true := by
  rw [onConnection, if_pos network]
  rfl

namespace Link

/-- A connection that was not closed, without errors but those of the network. -/
structure IsOpen (l : Link) : Prop where
  closes : l.wire.closes = 0
  plain : l.wire.plan.IsPlain

theorem IsOpen.launch {l : Link} (isOpen : l.IsOpen) (now : Time) (payload : Bytes) :
    (l.launch now payload).1.IsOpen ∧
      ∀ fault, (l.launch now payload).2.fault = some fault → fault.isTransport = true := by
  unfold Link.launch
  split
  · next error _ =>
    refine ⟨isOpen, fun fault met => ?_⟩
    cases met
    rfl
  · next frame _ =>
    obtain ⟨plan, closes, refusal, drain⟩ := l.wire.write_of_isPlain isOpen.plain now frame
    split
    · next written =>
      rw [written] at plan closes refusal
      refine ⟨⟨closes.trans isOpen.closes, plan ▸ isOpen.plain⟩, fun fault met => ?_⟩
      cases met
      exact Fault.isTransport_onConnection (refusal _ rfl)
    · next draining written =>
      rw [written] at plan closes drain
      refine ⟨⟨closes.trans isOpen.closes, plan ▸ isOpen.plain⟩, fun fault met => ?_⟩
      obtain ⟨cause, failing, rfl⟩ := Option.map_eq_some_iff.mp met
      exact Fault.isTransport_onConnection (drain draining cause rfl failing)

theorem IsOpen.land {l : Link} (isOpen : l.IsOpen) (flight : Flight) :
    (l.land flight).1.IsOpen := by
  unfold Link.land
  split <;> exact ⟨isOpen.closes, isOpen.plain⟩

/-- Closing counts once and meets nothing that it does not note itself. -/
theorem IsOpen.close {l : Link} (isOpen : l.IsOpen) :
    l.close.1.wire.closes = 1 ∧ l.close.2.1 = none := by
  have once : l.wire.close.1.closes = 1 := congrArg (· + 1) isOpen.closes
  have sound := isOpen.plain.close
  unfold Link.close
  split
  · next closed =>
    rw [closed] at once
    exact ⟨once, rfl⟩
  · next fault closed =>
    have met : l.wire.plan.closeFault = some fault := congrArg Prod.snd closed
    rw [closed] at once
    rw [if_pos (sound fault met)]
    exact ⟨once, rfl⟩

end Link

/-- What a pacer came to, by the way its run ended: it was stopped, a send failed, it never began as
the listener could not be bound, or it was cut off. Each goes with the outcome that is reported. -/
inductive Pacer.Reports (bindFault : Option Fault) (p : Pacer) : Outcome Unit → Prop where
  | stopped : p.status = .stopped → p.stats.failure = none → Reports bindFault p (.returned ())
  | broken {fault : Fault} : p.status = .failed → p.stats.failure = some fault →
    fault.isTransport = true → Reports bindFault p (.failed fault)
  | refused {fault : Fault} : p.status = .awaiting → p.stats.failure = none →
    bindFault = some fault → Reports bindFault p (.failed fault)
  | cutOff : p.status = .running → p.stats.failure = none → Reports bindFault p .cancelled

theorem Pacer.Reports.mono {p : Pacer} {outcome : Outcome Unit} (reports : p.Reports none outcome)
    (bindFault : Option Fault) : p.Reports bindFault outcome := by
  cases reports with
  | stopped status sound => exact .stopped status sound
  | broken status failed transport => exact .broken status failed transport
  | refused _ _ refused => cases refused
  | cutOff status sound => exact .cutOff status sound

namespace Run

/-- A run on a connection that is open. While it goes on nothing has failed; once it is over, it was
stopped or a send failed. -/
structure IsSound (r : Run) : Prop where
  carrier : ∃ link, r.carrier = .framed link ∧ link.IsOpen
  observer : r.observer = fun _ => {}
  going : r.isOver = false → r.pacer.status = .running ∧ r.pacer.stats.failure = none
  flight : ∀ burst left flight due fault, r.phase = .inFlight burst left flight due →
    flight.fault = some fault → fault.isTransport = true
  ended : r.isOver = true → r.phase = .ended none ∧
    ∃ outcome, r.pacer.Reports none outcome ∧ outcome ≠ .cancelled

theorem IsSound.finished {r : Run} {outcome : Outcome Unit} (phase : r.phase = .ended none)
    (carrier : ∃ link, r.carrier = .framed link ∧ link.IsOpen) (observer : r.observer = fun _ => {})
    (reports : r.pacer.Reports none outcome) (uncut : outcome ≠ .cancelled) : r.IsSound where
  carrier := carrier
  observer := observer
  going going := by simp [isOver, phase] at going
  flight burst left flight due fault underWay := by simp [phase] at underWay
  ended _ := ⟨phase, outcome, reports, uncut⟩

theorem IsSound.onward {r : Run} (going : r.isOver = false)
    (carrier : ∃ link, r.carrier = .framed link ∧ link.IsOpen) (observer : r.observer = fun _ => {})
    (status : r.pacer.status = .running) (unfailed : r.pacer.stats.failure = none)
    (landed : ∀ burst left flight due, r.phase ≠ .inFlight burst left flight due) :
    r.IsSound where
  carrier := carrier
  observer := observer
  going _ := ⟨status, unfailed⟩
  flight burst left flight due fault underWay := absurd underWay (landed burst left flight due)
  ended finished := by simp [going] at finished

theorem IsSound.act {r next : Run} {now : Time} (sound : r.IsSound) (going : r.isOver = false)
    (move : Move now r next) : next.IsSound := by
  obtain ⟨status, unfailed⟩ := sound.going going
  obtain ⟨link, framed, isOpen⟩ := sound.carrier
  have silent (burst : Burst) : (r.observer burst).fault = none := by rw [sound.observer]
  cases move with
  | leave => exact .finished rfl sound.carrier sound.observer (.stopped rfl unfailed) (by simp)
  | begin => exact .onward rfl sound.carrier sound.observer status unfailed (by simp)
  | launch _ launched =>
    rw [framed] at launched
    obtain ⟨kept, transport⟩ := isOpen.launch now r.pacer.generator.next.2.payload
    obtain ⟨rfl, rfl⟩ := Prod.mk.inj launched
    refine ⟨⟨_, rfl, kept⟩, sound.observer, fun _ => ⟨status, unfailed⟩, ?_, by simp [isOver]⟩
    intro burst left flight due fault phase met
    cases phase
    exact transport fault met
  | land _ landed =>
    rw [framed, land_framed] at landed
    obtain ⟨rfl, -⟩ := Prod.mk.inj landed
    exact .onward rfl ⟨_, rfl, isOpen.land _⟩ sound.observer status unfailed (by simp)
  | fail _ landed transport =>
    rw [framed, land_framed] at landed
    obtain ⟨rfl, -⟩ := Prod.mk.inj landed
    exact .finished rfl ⟨_, rfl, isOpen.land _⟩ sound.observer (.broken rfl rfl transport) (by simp)
  | breakOff underWay landed other =>
    -- A send fails only with an error of the transport.
    have met := congrArg Prod.snd landed
    rw [Carrier.land_snd] at met
    simp [sound.flight _ _ _ _ _ underWay met] at other
  | relapse _ failed => simp [unfailed] at failed
  | object _ _ objection => simp [silent] at objection
  | suffice => exact .finished rfl sound.carrier sound.observer (.stopped rfl unfailed) (by simp)
  | rest => exact .onward rfl sound.carrier sound.observer status unfailed (by simp)
  | look => exact .onward rfl sound.carrier sound.observer status unfailed (by simp)

end Run

namespace Session

/-- The outcome that a session reports for a cause, when nothing else is met while it is wound up. -/
def verdict (p : Pacer) : Outcome Unit → Outcome Unit
  | .returned () =>
    match p.status, p.stats.failure with
    | .failed, some fault => .failed fault
    | _, _ => .returned ()
  | cause => cause

/-- Winding up stops the listener, closes the connection, and reports the verdict. -/
theorem wind_of_isOpen {link : Link} (isOpen : link.IsOpen) (t : Session) (now : Time)
    (cause : Outcome Unit) :
    (t.wind now link cause).1 =
        { t with
          inbox := t.inbox.stop.1
          closedLink := some link.close.1
          stage := .done
          ended := some (now, verdict t.pacer cause) } ∧
      ∃ rest, (t.wind now link cause).2 = t.inbox.stop.2 ++ link.close.2.2 ++ rest := by
  have unmet := isOpen.close.2
  unfold wind verdict
  simp only [unmet]
  cases cause with
  | returned value =>
    dsimp only
    cases t.pacer.status with
    | failed =>
      cases t.pacer.stats.failure with
      | some fault => exact ⟨rfl, [], by simp⟩
      | none => exact ⟨rfl, _, rfl⟩
    | awaiting | running | stopped => exact ⟨rfl, _, rfl⟩
  | failed fault => exact ⟨rfl, [], by simp⟩
  | cancelled => exact ⟨rfl, [], by simp⟩

/-- What a session that ended had come to, and the step in which it let go of its connection: the
listener was stopped before the connection was closed. -/
structure IsTornDown (s t : Session) (link : Link) (outcome : Outcome Unit) : Prop where
  once : link.wire.closes = 1
  stopped : t.inbox.running = false
  cause : t.pacer.Reports t.network.bindFault outcome
  inOrder : ∃ u moment opened rest, machine.Unfolds s u ∧ u.ended = none ∧
    u.link? = some opened ∧ opened.wire.closes = 0 ∧ opened.close.1 = link ∧
    (u.act moment).2 = u.inbox.stop.2 ++ opened.close.2.2 ++ rest ∧
    (u.cancelling = true ↔ outcome = .cancelled) ∧ machine.Unfolds (u.act moment).1 t

/-- A session that has not had a connection yet, nor an end. -/
structure IsUnopened (t : Session) : Prop where
  closedLink : t.closedLink = none
  ended : t.ended = none
  status : t.pacer.status = .awaiting
  unfailed : t.pacer.stats.failure = none

/-- Whether inputs may come before the main activity goes on. -/
def canWait (t : Session) : Bool :=
  match t.stage with
  | .connected _ | .winding _ _ => false
  | .pacing run => !run.isOver
  | _ => true

/-- The connection is in use, is about to be closed, or was closed as it should be. -/
structure IsTidy (s t : Session) : Prop where
  plain : ∀ k wire, (t.network.plan t.settings.target k).result = .ok wire → wire.IsPlain
  heeded : t.canWait = false → t.cancelling = false
  place : match t.stage with
    | .fresh | .gathering => t.IsUnopened
    | .dialing _ result => t.IsUnopened ∧ ∀ wire, result = .ok wire → wire.IsPlain
    | .connected link => t.IsUnopened ∧ link.IsOpen
    | .pacing run => t.closedLink = none ∧ t.ended = none ∧ run.IsSound
    | .winding link cause => t.closedLink = none ∧ t.ended = none ∧ link.IsOpen ∧
      verdict t.pacer cause ≠ .cancelled ∧
      t.pacer.Reports t.network.bindFault (verdict t.pacer cause)
    | .done => ∀ link ∈ t.closedLink, ∃ time outcome, t.ended = some (time, outcome) ∧
      IsTornDown s t link outcome

/-- A session with all that belongs to its connection as it is in another one. -/
structure Beside (t u : Session) : Prop where
  settings : u.settings = t.settings
  pacer : u.pacer = t.pacer
  closedLink : u.closedLink = t.closedLink
  ended : u.ended = t.ended
  bound : u.inbox.bound = t.inbox.bound
  network : t.network.Grows u.network
  stage : u.stage = t.stage ∨
    ∃ run, t.stage = .pacing run ∧ u.stage = .pacing { run with stop := true }

section Beside

variable {s t u : Session}

theorem Beside.refl (t : Session) : t.Beside t :=
  ⟨rfl, rfl, rfl, rfl, rfl, .refl _, .inl rfl⟩

theorem Beside.trans {v : Session} (first : t.Beside u) (second : u.Beside v) : t.Beside v where
  settings := second.settings.trans first.settings
  pacer := second.pacer.trans first.pacer
  closedLink := second.closedLink.trans first.closedLink
  ended := second.ended.trans first.ended
  bound := second.bound.trans first.bound
  network := first.network.trans second.network
  stage := by
    obtain same | ⟨run, here, stopped⟩ := first.stage
    · rw [← same]
      exact second.stage
    · obtain same | ⟨next, onward, again⟩ := second.stage
      · exact .inr ⟨run, here, same.trans stopped⟩
      · rw [stopped] at onward
        cases onward
        exact .inr ⟨run, here, again⟩

theorem beside_requestStop (t : Session) : t.Beside t.requestStop := by
  unfold requestStop
  split
  · next run pacing => exact ⟨rfl, rfl, rfl, rfl, rfl, .refl _, .inr ⟨run, pacing, rfl⟩⟩
  · exact ⟨rfl, rfl, rfl, rfl, rfl, .refl _, .inl rfl⟩

theorem beside_take (t : Session) (now : Time) (input : Input) : t.Beside (t.take now input).1 := by
  cases input with
  | stop | terminate => exact t.beside_requestStop
  | cancel =>
    unfold take requestCancel
    dsimp only
    split
    · exact .refl t
    · exact ⟨rfl, rfl, rfl, rfl, t.inbox.bound_proceedTimes _, .refl _, .inl rfl⟩
  | interrupt | observe => exact ⟨rfl, rfl, rfl, rfl, rfl, .refl _, .inl rfl⟩
  | connect name peer closeFault =>
    exact ⟨rfl, rfl, rfl, rfl, t.inbox.bound_accept name peer closeFault, .refl _, .inl rfl⟩
  | deliver name event =>
    exact ⟨rfl, rfl, rfl, rfl, t.inbox.bound_deliver name event, .refl _, .inl rfl⟩

theorem beside_takeAll (t : Session) (now : Time) (inputs : List Input) :
    t.Beside (machine.takeAll now inputs t) := by
  unfold Machine.takeAll
  induction inputs generalizing t with
  | nil => exact .refl t
  | cons input rest ih => exact (t.beside_take now input).trans (ih _)

theorem Beside.canWait (beside : t.Beside u) : u.canWait = t.canWait := by
  unfold Session.canWait
  obtain same | ⟨run, here, stopped⟩ := beside.stage
  · rw [same]
  · rw [here, stopped]
    rfl

/-- Inputs come only where a cancellation may come. -/
theorem canWait_of_wake (waits : machine.wake t ≠ .running) : t.canWait = true := by
  change t.wake ≠ .running at waits
  unfold wake mainWake at waits
  unfold Session.canWait
  cases stage : t.stage <;> simp only [stage] at waits ⊢
  case connected | winding => simp [Wake.earlier] at waits
  case pacing run =>
    cases finished : run.isOver with
    | false => rfl
    | true => simp [finished, Wake.earlier] at waits

end Beside

section Step

variable {s t : Session}

theorem IsTornDown.beside {u : Session} {link : Link} {outcome : Outcome Unit}
    (torn : IsTornDown s t link outcome) (beside : t.Beside u) (further : machine.Unfolds t u) :
    IsTornDown s u link outcome where
  once := torn.once
  stopped := by
    rw [Inbox.running, beside.bound]
    exact torn.stopped
  cause := by
    rw [beside.pacer, beside.network.bindFault]
    exact torn.cause
  inOrder := by
    obtain ⟨v, now, opened, rest, before, unended, here, closes, closed, noted, cut, after⟩ :=
      torn.inOrder
    exact ⟨v, now, opened, rest, before, unended, here, closes, closed, noted, cut,
      after.trans further⟩

theorem IsTidy.beside {u : Session} (tidy : IsTidy s t) (beside : t.Beside u)
    (further : machine.Unfolds t u) (heeded : u.canWait = false → u.cancelling = false) :
    IsTidy s u where
  plain := by
    rw [beside.settings, beside.network.plan]
    exact tidy.plain
  heeded := heeded
  place := by
    have unopened (here : t.IsUnopened) : u.IsUnopened :=
      ⟨beside.closedLink.trans here.closedLink, beside.ended.trans here.ended,
        by rw [beside.pacer]; exact here.status, by rw [beside.pacer]; exact here.unfailed⟩
    have place := tidy.place
    obtain same | ⟨run, pacing, stopped⟩ := beside.stage
    · rw [same]
      cases stage : t.stage <;> simp only [stage] at place ⊢
      case fresh | gathering => exact unopened place
      case dialing | connected => exact ⟨unopened place.1, place.2⟩
      case pacing =>
        exact ⟨beside.closedLink.trans place.1, beside.ended.trans place.2.1, place.2.2⟩
      case winding =>
        rw [beside.closedLink, beside.ended, beside.pacer, beside.network.bindFault]
        exact place
      case done =>
        rw [beside.closedLink, beside.ended]
        intro link member
        obtain ⟨time, outcome, ended, torn⟩ := place link member
        exact ⟨time, outcome, ended, torn.beside beside further⟩
    · rw [pacing] at place
      rw [stopped]
      obtain ⟨unclosed, unended, sound⟩ := place
      exact ⟨beside.closedLink.trans unclosed, beside.ended.trans unended,
        sound.carrier, sound.observer, sound.going, sound.flight, sound.ended⟩

/-- A session that ends without having had a connection has nothing to close. -/
theorem isTidy_finish
    (plain : ∀ k wire, (t.network.plan t.settings.target k).result = .ok wire → wire.IsPlain)
    (unclosed : t.closedLink = none) (now : Time) (outcome : Outcome Unit) :
    IsTidy s (t.finish now outcome) where
  plain := plain
  heeded := by simp [canWait, finish]
  place := by simp [finish, unclosed]

/-- The step that lets go of a connection. -/
theorem isTidy_wind {v : Session} {link : Link} {now : Time} (cause : Outcome Unit)
    (unfolded : machine.Unfolds s t) (tidy : IsTidy s t) (unended : t.ended = none)
    (here : t.link? = some link) (isOpen : link.IsOpen) (step : t.act now = v.wind now link cause)
    (settings : v.settings = t.settings) (network : v.network = t.network) (inbox : v.inbox = t.inbox)
    (reports : v.pacer.Reports v.network.bindFault (verdict v.pacer cause))
    (cut : t.cancelling = true ↔ verdict v.pacer cause = .cancelled) :
    IsTidy s (t.act now).1 := by
  obtain ⟨wound, rest, noted⟩ := wind_of_isOpen isOpen v now cause
  rw [← step] at wound noted
  have inOrder : ∃ u moment opened rest, machine.Unfolds s u ∧ u.ended = none ∧
      u.link? = some opened ∧ opened.wire.closes = 0 ∧ opened.close.1 = link.close.1 ∧
      (u.act moment).2 = u.inbox.stop.2 ++ opened.close.2.2 ++ rest ∧
      (u.cancelling = true ↔ verdict v.pacer cause = .cancelled) ∧
      machine.Unfolds (u.act moment).1 (t.act now).1 :=
    ⟨t, now, link, rest, unfolded, unended, here, isOpen.closes, rfl, inbox ▸ noted, cut, .start⟩
  rw [wound] at inOrder ⊢
  refine ⟨?_, by simp [canWait], ?_⟩
  · dsimp only
    rw [settings, network]
    exact tidy.plain
  · intro closed member
    cases member
    exact ⟨now, _, rfl, isOpen.close.1, by simp [Inbox.running, v.inbox.bound_stop], reports, inOrder⟩

theorem IsTidy.dial (tidy : IsTidy s t) (unopened : t.IsUnopened) (now : Time) :
    IsTidy s (t.dial now) where
  plain := tidy.plain
  heeded := by simp [canWait, Session.dial]
  place := ⟨⟨unopened.closedLink, unopened.ended, unopened.status, unopened.unfailed⟩,
    fun wire accepted => tidy.plain _ wire accepted⟩

theorem IsTidy.begin (tidy : IsTidy s t) (fresh : t.stage = .fresh) (now : Time) :
    IsTidy s (t.begin now).1 := by
  have unopened : t.IsUnopened := by
    have place := tidy.place
    rw [fresh] at place
    exact place
  unfold Session.begin
  dsimp only
  split
  · exact tidy.dial unopened now
  · exact ⟨tidy.plain, by simp [canWait],
      ⟨unopened.closedLink, unopened.ended, unopened.status, unopened.unfailed⟩⟩

theorem IsTidy.leaveGate {verdict : Except Fault Unit} (tidy : IsTidy s t)
    (gathering : t.stage = .gathering) (now : Time) : IsTidy s (t.leaveGate now verdict).1 := by
  have unopened : t.IsUnopened := by
    have place := tidy.place
    rw [gathering] at place
    exact place
  cases verdict with
  | ok => exact tidy.dial unopened now
  | error fault => exact isTidy_finish tidy.plain unopened.closedLink now _

theorem IsTidy.answer {due : Option Time} {result : Except Fault Network.WirePlan} (tidy : IsTidy s t)
    (dialing : t.stage = .dialing due result) (going : t.cancelling = false) (now : Time) :
    IsTidy s (t.answer now result).1 := by
  have place := tidy.place
  rw [dialing] at place
  obtain ⟨unopened, plain⟩ := place
  cases result with
  | error fault => exact isTidy_finish tidy.plain unopened.closedLink now _
  | ok wire =>
    exact ⟨tidy.plain, fun _ => going,
      ⟨unopened.closedLink, unopened.ended, unopened.status, unopened.unfailed⟩, rfl, plain wire rfl⟩

theorem IsTidy.listen {link : Link} (tidy : IsTidy s t) (connected : t.stage = .connected link)
    (going : t.cancelling = false) : IsTidy s (t.listen link).1 := by
  have place := tidy.place
  rw [connected] at place
  obtain ⟨unopened, isOpen⟩ := place
  unfold Session.listen
  cases fault? : t.network.bindFault with
  | some fault =>
    rw [t.inbox.start_of_fault fault?]
    exact ⟨tidy.plain, fun _ => going, unopened.closedLink, unopened.ended, isOpen, by simp [verdict],
      .refused unopened.status unopened.unfailed fault?⟩
  | none =>
    rw [t.inbox.start_of_free fault?]
    refine ⟨tidy.plain, fun _ => going, unopened.closedLink, unopened.ended, ?_⟩
    exact .onward rfl ⟨link, rfl, isOpen⟩ rfl rfl unopened.unfailed (by simp [Run.start])

/-- The verdict on a run that is over is what its pacer came to. -/
theorem verdict_of_reports {p : Pacer} {outcome : Outcome Unit} (reports : p.Reports none outcome)
    (uncut : outcome ≠ .cancelled) : verdict p (.returned ()) = outcome := by
  cases reports with
  | stopped status sound => simp [verdict, sound]
  | broken status failed => simp [verdict, status, failed]
  | refused _ _ refused => cases refused
  | cutOff => exact absurd rfl uncut

theorem IsTidy.pace {run : Run} (tidy : IsTidy s t) (pacing : t.stage = .pacing run)
    (going : t.cancelling = false) (now : Time) : IsTidy s (t.actMain now).1 := by
  have place := tidy.place
  rw [pacing] at place
  obtain ⟨unclosed, unended, sound⟩ := place
  unfold actMain
  rw [pacing]
  dsimp only
  split
  · next finished =>
    obtain ⟨phase, outcome, reports, uncut⟩ := sound.ended finished
    obtain ⟨link, framed, isOpen⟩ := sound.carrier
    have cause : causeOf run = .returned () := by rw [causeOf, phase]
    have same := verdict_of_reports reports uncut
    simp only [leavePacing, framed, cause]
    refine ⟨tidy.plain, fun _ => going, unclosed, unended, isOpen, ?_, ?_⟩
    · dsimp only
      rw [same]
      exact uncut
    · dsimp only
      rw [same]
      exact reports.mono _
  · next unfinished =>
    have onward := Bool.eq_false_iff.mpr unfinished
    exact ⟨tidy.plain, fun _ => going, unclosed, unended, sound.act onward (Run.move_act onward now)⟩

theorem IsTidy.cancel (tidy : IsTidy s t) (unfolded : machine.Unfolds s t)
    (cancelling : t.cancelling = true) (now : Time) : IsTidy s (t.act now).1 := by
  have waits : t.canWait = true := by
    cases waits : t.canWait with
    | true => rfl
    | false => simp [tidy.heeded waits] at cancelling
  have step : t.act now = t.cancel now := by rw [Session.act, if_pos cancelling]
  have place := tidy.place
  unfold canWait at waits
  cases stage : t.stage <;> simp only [stage] at place waits
  case fresh =>
    simp only [step, Session.cancel, stage]
    exact isTidy_finish (t := { t with cancelling := false }) tidy.plain
      place.closedLink now .cancelled
  case gathering =>
    simp only [step, Session.cancel, stage]
    exact isTidy_finish (t := { t with cancelling := false, gate := t.gate.cancel }) tidy.plain
      place.closedLink now .cancelled
  case dialing =>
    simp only [step, Session.cancel, stage]
    exact isTidy_finish (t := { t with cancelling := false }) tidy.plain place.1.closedLink now
      .cancelled
  case connected | winding => cases waits
  case pacing run =>
    obtain ⟨unclosed, unended, sound⟩ := place
    obtain ⟨link, framed, isOpen⟩ := sound.carrier
    obtain ⟨status, unfailed⟩ := sound.going (by simpa using waits)
    refine isTidy_wind (v := { t with cancelling := false, pacer := run.pacer }) .cancelled unfolded
      tidy unended ?_ isOpen ?_ rfl rfl rfl ?_ ?_
    · simp [link?, stage, framed]
    · simp [step, Session.cancel, stage, breakOff, framed]
    · exact .cutOff status unfailed
    · simp [cancelling, verdict]
  case done =>
    have same : (t.act now).1 = { t with cancelling := false } := by
      simp [step, Session.cancel, stage]
    refine tidy.beside ?_ (.act now .start) ?_
    · rw [same]
      exact ⟨rfl, rfl, rfl, rfl, rfl, .refl _, .inl rfl⟩
    · rw [same]
      exact fun _ => rfl

theorem IsTidy.act (tidy : IsTidy s t) (unfolded : machine.Unfolds s t) (now : Time) :
    IsTidy s (t.act now).1 := by
  cases cancelling : t.cancelling with
  | true => exact tidy.cancel unfolded cancelling now
  | false =>
    have further : machine.Unfolds t (t.act now).1 := .act now .start
    have place := tidy.place
    by_cases woken : (t.inbox.hasWoken && !t.isUnderWay now) = true
    · have same : (t.act now).1 =
          { t with inbox := t.inbox.proceed.1, ahead := t.ahead - 1 } := by
        simp [Session.act, cancelling, woken]
      refine tidy.beside ?_ further ?_
      · rw [same]
        exact ⟨rfl, rfl, rfl, rfl, t.inbox.bound_proceed, .refl _, .inl rfl⟩
      · rw [same]
        exact fun _ => cancelling
    · by_cases main : t.mainWake.earlier t.gate.wake = t.mainWake
      · have step : t.act now = t.actMain now := by
          simp [Session.act, cancelling, woken, main]
        cases stage : t.stage <;> simp only [stage] at place
        case fresh =>
          simp only [step, actMain, stage]
          exact tidy.begin stage now
        case gathering =>
          simp only [step, actMain, stage]
          split
          · exact tidy.leaveGate stage now
          · exact tidy
        case dialing =>
          simp only [step, actMain, stage]
          exact tidy.answer stage cancelling now
        case connected =>
          simp only [step, actMain, stage]
          exact tidy.listen stage cancelling
        case pacing =>
          rw [step]
          exact tidy.pace stage cancelling now
        case winding link cause =>
          obtain ⟨unclosed, unended, isOpen, uncut, reports⟩ := place
          refine isTidy_wind (v := t) cause unfolded tidy unended ?_ isOpen ?_ rfl rfl rfl reports ?_
          · simp [link?, stage]
          · simp only [step, actMain, stage]
          · simp [cancelling, uncut]
        case done =>
          simp only [step, actMain, stage]
          exact tidy
      · have same : (t.act now).1 = { t with
            gate := (t.gate.act now t.network).1, network := (t.gate.act now t.network).2.1 } := by
          simp [Session.act, cancelling, woken, main]
        refine tidy.beside ?_ further ?_
        · rw [same]
          exact ⟨rfl, rfl, rfl, rfl, rfl, (t.gate.step_act now t.network).grows, .inl rfl⟩
        · rw [same]
          exact fun _ => cancelling

theorem IsTidy.takeAll (tidy : IsTidy s t) (waits : machine.wake t ≠ .running) (now : Time)
    (inputs : List Input) : IsTidy s (machine.takeAll now inputs t) := by
  have beside := t.beside_takeAll now inputs
  refine tidy.beside beside (.take now inputs .start waits) fun stuck => ?_
  rw [beside.canWait, canWait_of_wake waits] at stuck
  cases stuck

end Step

/-- A session whose target opens plain connections lets go of them as it should, however it ends. -/
theorem isTidy_of_unfolds {settings : Settings} {counters : Payload.Counters} {receiver : Receiver}
    {network : Network} {s t : Session} {stop : Bool} {maxBursts : Option Int}
    (built : ofSettings? settings counters receiver network = .ok s)
    (plain : ∀ k wire, (network.plan settings.target k).result = .ok wire → wire.IsPlain)
    (unfolded : machine.Unfolds { s with stop, maxBursts } t) :
    IsTidy { s with stop, maxBursts } t := by
  obtain ⟨g, p, -, paced, rfl⟩ := eq_of_ofSettings? built
  obtain ⟨pace, -, rfl⟩ := Pacer.eq_of_ofRate? paced
  induction unfolded with
  | start => exact ⟨plain, by simp [canWait], ⟨rfl, rfl, rfl, rfl⟩⟩
  | act now before ih => exact ih.act before now
  | take now inputs _ waits ih => exact ih.takeAll waits now inputs

section Ended

variable {settings : Settings} {counters : Payload.Counters} {receiver : Receiver}
  {network : Network} {s t u : Session} {stop : Bool} {maxBursts : Option Int}
  (built : ofSettings? settings counters receiver network = .ok s)
  (plain : ∀ k wire, (network.plan settings.target k).result = .ok wire → wire.IsPlain)

include built plain

end Ended

/-- The session of two fillers in each burst. -/
def ofTwoFillers (network : Network) : Session where
  settings := twoFillers
  pacer := {
    rate := 2
    nominal := .ms 1000
    generator := ⟨false, 9, ⟨7, 0, 0⟩, Nat.le_succ Payload.headerSize⟩ }
  gate := ⟨.ms 10, []⟩
  inbox := { host := "0.0.0.0", port := 9001, receiver := { verbose := false } }
  network

theorem ofSettings?_twoFillers (network : Network) :
    ofSettings? twoFillers ⟨7, 0, 0⟩ { verbose := false } network = .ok (ofTwoFillers network) := by
  have seconds (n : Int) (small : Decimal.roundTo53 n.natAbs < Nat.pow 2 1024) :
      ∃ x, Settings.seconds (.int n) = .ok x := by
    unfold Settings.seconds Decimal.ofInt?
    dsimp only
    rw [if_pos small]
    exact ⟨_, rfl⟩
  obtain ⟨delay, delays⟩ := seconds 10 (by decide +kernel)
  obtain ⟨duration, lasts⟩ := seconds 1000 (by decide +kernel)
  unfold ofSettings?
  rw [show twoFillers.probeDelay = .int 10 from rfl,
    show twoFillers.burstDuration = .int 1000 from rfl, delays, lasts]
  rfl

/-- Every write but the first fails, and so does closing. -/
def brokenNetwork : Network where
  plan _ _ := { result := .ok {
    writes := fun n => if n = 0 then {} else { fault := some (.network "BrokenPipeError" "broken") }
    closeFault := some (.network "OSError" "closing") } }

end Session

end BurstLoad
