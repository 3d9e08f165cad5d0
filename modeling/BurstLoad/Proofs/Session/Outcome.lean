import BurstLoad.Proofs.Record
import BurstLoad.Proofs.Session.Move
import BurstLoad.Proofs.Session.TearDown

/-! Why a session ends. In a network that only meets network errors it fails exactly if its target could not
be reached, its listener not be bound or a transaction not be sent, and it is cancelled exactly if it was
interrupted; otherwise it was asked to stop. -/

set_option autoImplicit false

namespace BurstLoad

theorem Fault.isOwn_of_isTransport {fault : Fault} (transport : fault.isTransport = true) :
    fault.isOwn = true := by
  cases fault with
  | network | other => cases transport
  | _ => rfl

namespace Network

/-- The only errors of a network are network errors. -/
structure IsPlain (n : Network) : Prop where
  bind : ∀ fault, n.bindFault = some fault → fault.isNetwork = true
  refused : ∀ e k fault, (n.plan e k).result = .error fault → fault.isNetwork = true
  opened : ∀ e k wire, (n.plan e k).result = .ok wire → wire.IsPlain

theorem Grows.isPlain {n m : Network} (grows : n.Grows m) (plain : n.IsPlain) : m.IsPlain where
  bind := by
    rw [grows.bindFault]
    exact plain.bind
  refused := by
    rw [grows.plan]
    exact plain.refused
  opened := by
    rw [grows.plan]
    exact plain.opened

end Network

namespace Probe

/-- A probe that meets no errors but those of the network. -/
def IsPlain (p : Probe) : Prop :=
  match p.stage with
  | .connecting _ (.error fault) => fault.isNetwork = true
  | .connecting _ (.ok wire) => wire.IsPlain
  | .failed _ => False
  | _ => True

theorem IsPlain.knock {n : Network} (plain : n.IsPlain) (p : Probe) (now : Time) :
    (p.knock now n).1.IsPlain := by
  unfold Probe.knock Network.attempt IsPlain
  dsimp only
  cases answer : (n.plan p.peer (n.triesOf p.peer)).result with
  | error fault => exact plain.refused _ _ _ answer
  | ok wire => exact plain.opened _ _ _ answer

theorem IsPlain.act {p : Probe} {n : Network} (sound : p.IsPlain) (plain : n.IsPlain) (retry : Span)
    (now : Time) : (p.act retry now n).1.IsPlain := by
  unfold Probe.act
  cases stage : p.stage with
  | unstarted | pausing => exact .knock plain p now
  | connecting due result =>
    rw [IsPlain, stage] at sound
    cases result with
    | error fault =>
      dsimp only [miss]
      rw [if_pos sound]
      trivial
    | ok wire =>
      dsimp only [hit]
      split
      · trivial
      · next fault closed =>
        have met : wire.closeFault = some fault := congrArg Prod.snd closed
        rw [if_pos (sound.close fault met)]
        trivial
  | online | failed | cancelled => exact sound

end Probe

namespace Gate

/-- No probe of a gate meets other errors than those of the network. -/
def IsPlain (g : Gate) : Prop :=
  ∀ p ∈ g.probes, p.IsPlain

theorem isPlain_ofPeers (peers : List Endpoint) (retry : Span) (now : Time) :
    (ofPeers peers retry now).IsPlain := by
  intro p member
  obtain ⟨peer, -, rfl⟩ := List.mem_map.mp member
  trivial

theorem IsPlain.act {g : Gate} {n : Network} (sound : g.IsPlain) (plain : n.IsPlain) (now : Time) :
    (g.act now n).1.IsPlain := by
  unfold Gate.act
  dsimp only
  change ∀ p ∈ (actOn g.retry g.wake now n g.probes).1, p.IsPlain
  unfold IsPlain at sound
  generalize g.wake = due
  generalize g.probes = probes at sound
  induction probes with
  | nil => nofun
  | cons p rest ih =>
    rw [actOn_cons]
    rw [List.forall_mem_cons] at sound
    split
    · exact List.forall_mem_cons.mpr ⟨sound.1.act plain g.retry now, sound.2⟩
    · exact List.forall_mem_cons.mpr ⟨sound.1, ih sound.2⟩

theorem IsPlain.cancel {g : Gate} (sound : g.IsPlain) : g.cancel.IsPlain := by
  intro p member
  obtain ⟨q, known, rfl⟩ := List.mem_map.mp member
  unfold Probe.cancel
  split
  · exact sound q known
  · trivial

/-- Such a gate does not fail. -/
theorem IsPlain.verdict? {g : Gate} (sound : g.IsPlain) (fault : Fault) :
    g.verdict? ≠ some (.error fault) := by
  have unfailed : g.probes.findSome? Probe.fault? = none := by
    rw [List.findSome?_eq_none_iff]
    intro p member
    have plain := sound p member
    unfold Probe.IsPlain at plain
    unfold Probe.fault?
    cases stage : p.stage <;> simp only [stage] at plain ⊢
  unfold Gate.verdict?
  rw [unfailed]
  dsimp only
  split <;> simp

end Gate

namespace Run

/-- What an act makes of a sound run without a limit: it fails exactly if a send comes to an error, and it
ends well only after a stop request. -/
theorem IsSound.end_of_act {r next : Run} {now : Time} (sound : r.IsSound) (going : r.isOver = false)
    (move : Move now r next) (unlimited : r.maxBursts = none) :
    next.maxBursts = none ∧ next.stop = r.stop ∧ (next.pacer.status = .failed ↔ r.IsFailing) ∧
      (next.isOver = true → next.pacer.status ≠ .failed → next.stop = true) := by
  obtain ⟨status, unfailed⟩ := sound.going going
  have silent (burst : Burst) : r.observer burst = {} := by rw [sound.observer]
  -- Apart from the end of a send, nothing fails.
  have quiet (phase : ∀ burst left flight due, r.phase = .inFlight burst left flight due →
      flight.fault = none) : ¬ r.IsFailing := by
    intro ⟨burst, left, flight, due, underWay, failing⟩
    simp [phase burst left flight due underWay] at failing
  cases move with
  | leave looking stop =>
    exact ⟨unlimited, rfl, by simp [finish, quiet, looking], fun _ _ => stop⟩
  | begin looking => exact ⟨unlimited, rfl, by simp [status, quiet, looking], by simp [isOver]⟩
  | launch sending => exact ⟨unlimited, rfl, by simp [status, quiet, sending], by simp [isOver]⟩
  | land underWay landed =>
    have met := congrArg Prod.snd landed
    rw [Carrier.land_snd] at met
    have flies : ¬ r.IsFailing := quiet fun _ _ _ _ same => by
      rw [underWay] at same
      cases same
      exact met
    exact ⟨unlimited, rfl, by simp [Pacer.countPayload, status, flies], by simp [isOver]⟩
  | fail underWay landed =>
    have met := congrArg Prod.snd landed
    rw [Carrier.land_snd] at met
    refine ⟨unlimited, rfl, ?_, by simp [Pacer.fail]⟩
    simp [Pacer.fail, IsFailing, underWay, met]
  | breakOff underWay landed other =>
    have met := congrArg Prod.snd landed
    rw [Carrier.land_snd] at met
    simp [sound.flight _ _ _ _ _ underWay met] at other
  | relapse _ failed => simp [unfailed] at failed
  | object _ _ objection => simp [silent] at objection
  | suffice _ _ _ reached => simp [Pacer.reached, unlimited] at reached
  | rest sent =>
    refine ⟨unlimited, ?_, ?_, by simp [isOver]⟩
    · simp [completed, silent]
    · simp [completed, Pacer.completeBurst, status, quiet, sent]
  | look resting => exact ⟨unlimited, rfl, by simp [status, quiet, resting], by simp [isOver]⟩

end Run

namespace Session

/-- What happened to a session. -/
abbrev Record := Machine.Record Session Input

/-- What an act of the main activity meets that lets a session fail. -/
inductive Mishap (now : Time) (s : Session) : Prop where
  | unreachable {due : Option Time} {fault : Fault} : s.goesOn now = true →
    s.stage = .dialing due (.error fault) → Mishap now s
  | unbound {link : Link} {fault : Fault} : s.goesOn now = true → s.stage = .connected link →
    s.network.bindFault = some fault → Mishap now s
  | unsent {run : Run} : s.goesOn now = true → s.stage = .pacing run → run.IsFailing → Mishap now s

theorem mishap_iff {now : Time} {s : Session} : Mishap now s ↔ s.goesOn now = true ∧
    match s.stage with
    | .dialing _ (.error _) => True
    | .connected _ => s.network.bindFault.isSome = true
    | .pacing run => run.IsFailing
    | _ => False := by
  constructor
  · rintro (⟨own, dialing⟩ | ⟨own, connected, met⟩ | ⟨own, pacing, failing⟩)
    · exact ⟨own, by rw [dialing]; trivial⟩
    · exact ⟨own, by rw [connected, met]; rfl⟩
    · exact ⟨own, by rw [pacing]; exact failing⟩
  · rintro ⟨own, met⟩
    split at met
    · next dialing => exact .unreachable own dialing
    · next connected =>
      obtain ⟨fault, met⟩ := Option.isSome_iff_exists.mp met
      exact .unbound own connected met
    · next pacing => exact .unsent own pacing met
    · cases met

theorem Mishap.goesOn {now : Time} {s : Session} (mishap : Mishap now s) : s.goesOn now = true := by
  cases mishap <;> assumption

namespace Record

/-- A mishap came to pass. -/
def HasMishap (record : Record) : Prop :=
  ∃ now s, .acted now s ∈ record ∧ Mishap now s

def HasInterrupt (record : Record) : Prop :=
  ∃ now, .took now .interrupt ∈ record

/-- A stop was asked for by a signal. -/
def HasTerminate (record : Record) : Prop :=
  ∃ now signal, .took now (.terminate signal) ∈ record

variable {record : Record} {now : Time} {s : Session} {input : Input}

theorem hasMishap_acted : HasMishap (record ++ [.acted now s]) ↔ HasMishap record ∨ Mishap now s := by
  simp only [HasMishap, List.mem_append, List.mem_singleton]
  constructor
  · rintro ⟨moment, u, before | here, mishap⟩
    · exact .inl ⟨moment, u, before, mishap⟩
    · cases here
      exact .inr mishap
  · rintro (⟨moment, u, before, mishap⟩ | mishap)
    · exact ⟨moment, u, .inl before, mishap⟩
    · exact ⟨now, s, .inr rfl, mishap⟩

theorem hasMishap_took : HasMishap (record ++ [.took now input]) ↔ HasMishap record := by
  simp [HasMishap]

theorem hasInterrupt_acted : HasInterrupt (record ++ [.acted now s]) ↔ HasInterrupt record := by
  simp [HasInterrupt]

theorem hasInterrupt_took :
    HasInterrupt (record ++ [.took now input]) ↔ HasInterrupt record ∨ input = .interrupt := by
  simp [HasInterrupt, exists_or, eq_comm]

theorem HasTerminate.append (has : HasTerminate record) (more : Record) :
    HasTerminate (record ++ more) := by
  obtain ⟨now, signal, member⟩ := has
  exact ⟨now, signal, List.mem_append_left more member⟩

end Record

open Record

/-- An outcome as a record accounts for it. -/
structure IsAccountedFor (record : Record) (outcome : Outcome Unit) : Prop where
  failed : (∃ fault, outcome = .failed fault) ↔ HasMishap record
  cancelled : outcome = .cancelled ↔ HasInterrupt record
  returned : outcome = .returned () → HasTerminate record
  -- the failures that are reported
  known : ∀ fault, outcome = .failed fault → (fault.isOwn || fault.isNetwork) = true

/-- A record accounts for the stage at which a session is, with its pacer and its end. -/
abbrev Fits (record : Record) (pacer : Pacer) (ended : Option (Time × Outcome Unit)) : Stage → Prop
  | .fresh | .gathering | .connected _ => ¬ HasMishap record
  | .dialing _ result => ¬ HasMishap record ∧ ∀ fault, result = .error fault → fault.isNetwork = true
  | .pacing run => run.maxBursts = none ∧ (run.stop = true → HasTerminate record) ∧
    (run.pacer.status = .failed ↔ HasMishap record) ∧
    (run.isOver = true → run.pacer.status ≠ .failed → run.stop = true)
  | .winding _ cause => IsAccountedFor record (verdict pacer cause)
  | .done => ∃ time outcome, ended = some (time, outcome) ∧ IsAccountedFor record outcome

/-- A session on the way to its end, with all that happened to it. -/
structure IsOnRecord (t : Session) (record : Record) : Prop where
  network : t.network.IsPlain
  gate : t.gate.IsPlain
  unlimited : t.maxBursts = none
  asked : t.stop = true → HasTerminate record
  cut : t.ended = none → (t.cancelling = true ↔ HasInterrupt record)
  place : Fits record t.pacer t.ended t.stage

variable {s t u : Session} {record : Record} {now : Time}

/-- A session that ends in this act, uncut. -/
theorem isAccountedFor_failed {fault : Fault} (here : t.IsOnRecord record) (unended : t.ended = none)
    (mishap : Mishap now t) (known : (fault.isOwn || fault.isNetwork) = true) :
    IsAccountedFor (record ++ [.acted now t]) (.failed fault) where
  failed := by simp [hasMishap_acted, mishap]
  cancelled := by
    have uncut := cancelling_of_goesOn mishap.goesOn
    simp [hasInterrupt_acted, ← here.cut unended, uncut]
  returned := nofun
  known other same := by
    cases same
    exact known

theorem isAccountedFor_cancelled (here : t.IsOnRecord record) (unended : t.ended = none)
    (cancelling : t.cancelling = true) (sound : ¬ HasMishap record) :
    IsAccountedFor (record ++ [.acted now t]) .cancelled where
  failed := by
    have idle : ¬ Mishap now t := fun mishap => by
      rw [cancelling_of_goesOn mishap.goesOn] at cancelling
      cases cancelling
    simp [hasMishap_acted, idle, sound]
  cancelled := by simp [hasInterrupt_acted, ← here.cut unended, cancelling]
  returned := nofun
  known := nofun

theorem IsAccountedFor.acted {outcome : Outcome Unit} (accounted : IsAccountedFor record outcome)
    (idle : ¬ Mishap now t) : IsAccountedFor (record ++ [.acted now t]) outcome where
  failed := by
    rw [accounted.failed, hasMishap_acted]
    simp [idle]
  cancelled := by rw [accounted.cancelled, hasInterrupt_acted]
  returned value := (accounted.returned value).append _
  known := accounted.known

/-- The record of a session that has come to its end. -/
theorem IsOnRecord.atEnd {time : Time} {outcome : Outcome Unit} (here : t.IsOnRecord record)
    (network : u.network = t.network) (gate : u.gate.IsPlain) (unlimited : u.maxBursts = t.maxBursts)
    (stop : u.stop = t.stop) (done : u.stage = .done) (ended : u.ended = some (time, outcome))
    (accounted : IsAccountedFor (record ++ [.acted now t]) outcome) :
    u.IsOnRecord (record ++ [.acted now t]) where
  network := network ▸ here.network
  gate := gate
  unlimited := unlimited.trans here.unlimited
  asked asked := (here.asked (stop ▸ asked)).append _
  cut unended := by
    rw [ended] at unended
    cases unended
  place := by
    rw [done]
    exact ⟨time, outcome, ended, accounted⟩

/-- The record of a session that goes on. -/
theorem IsOnRecord.onward (here : t.IsOnRecord record) (unended : t.ended = none)
    (network : u.network.IsPlain) (gate : u.gate.IsPlain) (unlimited : u.maxBursts = t.maxBursts)
    (stop : u.stop = t.stop) (cancelling : u.cancelling = t.cancelling)
    (place : Fits (record ++ [.acted now t]) u.pacer u.ended u.stage) :
    u.IsOnRecord (record ++ [.acted now t]) where
  network := network
  gate := gate
  unlimited := unlimited.trans here.unlimited
  asked asked := (here.asked (stop ▸ asked)).append _
  cut _ := by rw [cancelling, hasInterrupt_acted, here.cut unended]
  place := place

/-- What an act that is not one of the main activity leaves on record. -/
theorem IsOnRecord.aside (here : t.IsOnRecord record) (unended : t.ended = none)
    (idle : ¬ Mishap now t) (network : u.network.IsPlain) (gate : u.gate.IsPlain)
    (unlimited : u.maxBursts = t.maxBursts) (stop : u.stop = t.stop)
    (cancelling : u.cancelling = t.cancelling) (pacer : u.pacer = t.pacer) (stage : u.stage = t.stage)
    (undone : t.stage ≠ .done) : u.IsOnRecord (record ++ [.acted now t]) := by
  have still : HasMishap (record ++ [.acted now t]) ↔ HasMishap record := by simp [hasMishap_acted, idle]
  have place := here.place
  refine here.onward unended network gate unlimited stop cancelling ?_
  rw [stage, pacer]
  cases same : t.stage <;> simp only [same, Fits, still] at place undone ⊢
  case fresh | gathering | dialing | connected => exact place
  case pacing => exact ⟨place.1, fun stop => (place.2.1 stop).append _, place.2.2⟩
  case winding => exact place.acted idle
  case done => exact absurd rfl undone

theorem IsOnRecord.undone (here : t.IsOnRecord record) (unended : t.ended = none) :
    t.stage ≠ .done := by
  intro done
  have place := here.place
  rw [done] at place
  obtain ⟨time, outcome, ended, -⟩ := place
  rw [unended] at ended
  cases ended

/-- The verdict on a run that is over. -/
theorem isAccountedFor_verdict {run : Run} (sound : run.IsSound) (finished : run.isOver = true)
    (uncut : ¬ HasInterrupt record) (failed : run.pacer.status = .failed ↔ HasMishap record)
    (stopped : run.pacer.status ≠ .failed → HasTerminate record) :
    IsAccountedFor record (verdict run.pacer (causeOf run)) := by
  obtain ⟨phase, outcome, reports, natural⟩ := sound.ended finished
  have cause : causeOf run = .returned () := by rw [causeOf, phase]
  rw [cause, verdict_of_reports reports natural]
  cases reports with
  | stopped status unfailed =>
    simp only [status, reduceCtorEq, false_iff] at failed
    exact ⟨by simp [failed], by simp [uncut], fun _ => stopped (by simp [status]), by simp⟩
  | broken status met transport =>
    refine ⟨by simp [← failed, status], by simp [uncut], by simp, fun fault same => ?_⟩
    cases same
    rw [Fault.isOwn_of_isTransport transport, Bool.true_or]
  | refused _ _ refused => cases refused
  | cutOff => exact absurd rfl natural

section Act

variable (here : t.IsOnRecord record) (tidy : IsTidy s t) (unended : t.ended = none) (now : Time)

include here tidy unended

theorem isOnRecord_cancel (cancelling : t.cancelling = true) :
    (t.cancel now).1.IsOnRecord (record ++ [.acted now t]) := by
  have undone := here.undone unended
  have place := here.place
  have standing := tidy.place
  have waits : t.canWait = true := by
    cases waits : t.canWait with
    | true => rfl
    | false => simp [tidy.heeded waits] at cancelling
  -- Once a send has failed a session does not wait any more, so what is cut off here has not failed.
  unfold canWait at waits
  unfold cancel
  dsimp only
  cases stage : t.stage <;> simp only [stage] at place standing waits undone ⊢
  case fresh =>
    exact here.atEnd rfl here.gate rfl rfl rfl rfl (isAccountedFor_cancelled here unended cancelling place)
  case gathering =>
    exact here.atEnd rfl here.gate.cancel rfl rfl rfl rfl
      (isAccountedFor_cancelled here unended cancelling place)
  case dialing =>
    exact here.atEnd rfl here.gate rfl rfl rfl rfl
      (isAccountedFor_cancelled here unended cancelling place.1)
  case connected | winding => cases waits
  case pacing run =>
    obtain ⟨-, -, sound⟩ := standing
    obtain ⟨link, framed, isOpen⟩ := sound.carrier
    have unfailed : ¬ HasMishap record := by
      simp [← place.2.2.1, (sound.going (by simpa using waits)).1]
    unfold breakOff
    rw [framed]
    dsimp only
    rw [(wind_of_isOpen isOpen _ now .cancelled).1]
    exact here.atEnd rfl here.gate rfl rfl rfl rfl
      (isAccountedFor_cancelled here unended cancelling unfailed)
  case done => exact absurd rfl undone

theorem isOnRecord_act : (t.act now).1.IsOnRecord (record ++ [.acted now t]) := by
  have undone := here.undone unended
  have place := here.place
  have standing := tidy.place
  have idle (calm : ¬ Mishap now t) :
      HasMishap (record ++ [.acted now t]) ↔ HasMishap record := by simp [hasMishap_acted, calm]
  have uncut (own : t.goesOn now = true) : ¬ HasInterrupt (record ++ [.acted now t]) := by
    simp [hasInterrupt_acted, ← here.cut unended, cancelling_of_goesOn own]
  have move := t.move_act now
  generalize moved : (t.act now).1 = next at move
  -- A mishap is one of the stage at which the main activity goes on, so the stage tells whether there is one.
  cases move with
  | cancelEarly cancelling | cancelGate cancelling | cancelLink cancelling | cancelRun cancelling
  | cancelNothing cancelling =>
    rw [← moved, Session.act, if_pos cancelling]
    exact isOnRecord_cancel here tidy unended now cancelling
  | turn _ other =>
    have calm : ¬ Mishap now t := fun mishap => by simp [mishap.goesOn] at other
    exact here.aside unended calm here.network here.gate rfl rfl rfl rfl rfl undone
  | probe _ other =>
    have calm : ¬ Mishap now t := fun mishap => by simp [mishap.goesOn] at other
    exact here.aside unended calm ((t.gate.step_act now t.network).grows.isPlain here.network)
      (here.gate.act here.network now) rfl rfl rfl rfl rfl undone
  | gather own fresh =>
    have calm : ¬ Mishap now t := by simp [mishap_iff, fresh]
    rw [fresh] at place
    refine here.onward unended here.network (Gate.isPlain_ofPeers _ _ now) rfl rfl rfl ?_
    exact mt (idle calm).mp place
  | dial own early =>
    have sound : ¬ HasMishap (record ++ [.acted now t]) := by
      obtain ⟨fresh, -⟩ | ⟨gathering, -⟩ := early
      · rw [fresh] at place
        exact mt (idle (by simp [mishap_iff, fresh])).mp place
      · rw [gathering] at place
        exact mt (idle (by simp [mishap_iff, gathering])).mp place
    refine here.onward unended ((t.network.grows_attempt now t.settings.target).isPlain here.network)
      here.gate rfl rfl rfl ⟨sound, fun fault refused => ?_⟩
    exact here.network.refused _ _ fault refused
  | giveUp own gathering settled => exact absurd settled (here.gate.verdict? _)
  | refuse own dialing =>
    rw [dialing] at place
    have known := place.2 _ rfl
    refine here.atEnd rfl here.gate rfl rfl rfl rfl
      (isAccountedFor_failed here unended (.unreachable own dialing) ?_)
    rw [Link.connectFault, if_pos known]
    rfl
  | connect own dialing =>
    have calm : ¬ Mishap now t := by simp [mishap_iff, dialing]
    rw [dialing] at place
    exact here.onward unended here.network here.gate rfl rfl rfl (mt (idle calm).mp place.1)
  | bindFail own connected fault? =>
    refine here.onward unended ⟨here.network.bind, here.network.refused, here.network.opened⟩ here.gate
      rfl rfl rfl ?_
    refine isAccountedFor_failed here unended (.unbound own connected fault?) ?_
    rw [here.network.bind _ fault?, Bool.or_true]
  | listen own connected free =>
    have calm : ¬ Mishap now t := by simp [mishap_iff, connected, free]
    rw [connected] at place
    refine here.onward unended ⟨here.network.bind, here.network.refused, here.network.opened⟩ here.gate
      rfl rfl rfl ⟨here.unlimited, fun stop => (here.asked stop).append _, ?_,
        by simp [Run.start, Run.isOver]⟩
    simp [Run.start, idle calm, place]
  | pace own pacing going =>
    rw [pacing] at place standing
    obtain ⟨unlimited, asked, failed, -⟩ := place
    obtain ⟨-, -, sound⟩ := standing
    obtain ⟨runs, stop, failing, stopped⟩ := sound.end_of_act going (Run.move_act going now) unlimited
    have before : ¬ HasMishap record := by simp [← failed, (sound.going going).1]
    refine here.onward unended here.network here.gate rfl rfl rfl
      ⟨runs, fun now => (asked (stop ▸ now)).append _, ?_, stopped⟩
    rw [failing, hasMishap_acted, or_iff_right before, mishap_iff, pacing, and_iff_right own]
  | leave own pacing finished framed =>
    rw [pacing] at place standing
    obtain ⟨-, asked, failed, stopped⟩ := place
    obtain ⟨-, -, sound⟩ := standing
    have calm : ¬ Mishap now t := by
      rw [mishap_iff, pacing]
      rintro ⟨-, _, _, _, _, underWay, -⟩
      simp [Run.isOver, underWay] at finished
    refine here.onward unended here.network here.gate rfl rfl rfl ?_
    refine isAccountedFor_verdict sound finished (uncut own) (failed.trans (idle calm).symm) fun unfailed => ?_
    exact (asked (stopped finished unfailed)).append _
  | wind own winding =>
    have calm : ¬ Mishap now t := by simp [mishap_iff, winding]
    rw [winding] at place standing
    rw [(wind_of_isOpen standing.2.2.1 t now _).1]
    exact here.atEnd rfl here.gate rfl rfl rfl rfl (place.acted calm)
  | stay own still =>
    obtain gathering | done | ⟨run, pacing, -, bare⟩ := still
    · have calm : ¬ Mishap now t := by simp [mishap_iff, gathering]
      exact here.aside unended calm here.network here.gate rfl rfl rfl rfl rfl undone
    · exact absurd done undone
    · rw [pacing] at standing
      obtain ⟨link, framed, -⟩ := standing.2.2.carrier
      exact absurd framed (bare link)

end Act

/-- What can come to a session from outside: signals, and connections with what they bring. -/
def Input.isOutside : Input → Bool
  | .stop | .cancel => false
  | _ => true

/-- What an input leaves on record, where one may come. -/
theorem IsOnRecord.beside {more : Record} (here : t.IsOnRecord record) (unended : t.ended = none)
    (waits : t.canWait = true) (beside : t.Beside u) (gate : u.gate = t.gate)
    (unlimited : u.maxBursts = t.maxBursts) (mishap : HasMishap more ↔ HasMishap record)
    (terminate : HasTerminate record → HasTerminate more) (cut : u.cancelling = true ↔ HasInterrupt more)
    (asked : u.stop = t.stop ∧ u.stage = t.stage ∨ HasTerminate more) : u.IsOnRecord more where
  network := beside.network.isPlain here.network
  gate := gate ▸ here.gate
  unlimited := unlimited.trans here.unlimited
  asked stop := by
    obtain ⟨same, -⟩ | now := asked
    · exact terminate (here.asked (same ▸ stop))
    · exact now
  cut _ := cut
  place := by
    have undone := here.undone unended
    have place := here.place
    unfold canWait at waits
    obtain same | ⟨run, pacing, stopped⟩ := beside.stage
    · rw [same]
      cases stage : t.stage <;> simp only [stage, Fits, mishap] at place waits undone ⊢
      case fresh | gathering | dialing => exact place
      case connected | winding => cases waits
      case pacing => exact ⟨place.1, fun stop => terminate (place.2.1 stop), place.2.2⟩
      case done => exact absurd rfl undone
    · rw [pacing] at place
      rw [stopped]
      obtain ⟨runs, asks, failed, -⟩ := place
      refine ⟨runs, fun _ => ?_, failed.trans mishap.symm, fun _ _ => rfl⟩
      obtain ⟨-, same⟩ | now := asked
      · rw [stopped, pacing] at same
        have stop : true = run.stop := congrArg Run.stop (Stage.pacing.inj same)
        exact terminate (asks stop.symm)
      · exact now

theorem IsOnRecord.take (here : t.IsOnRecord record) (unended : t.ended = none)
    (waits : t.canWait = true) (now : Time) {input : Input} (outside : input.isOutside = true) :
    (t.take now input).1.IsOnRecord (record ++ [.took now input]) := by
  have cut := here.cut unended
  have beside := t.beside_take now input
  have terminate (has : HasTerminate record) : HasTerminate (record ++ [.took now input]) := has.append _
  cases input with
  | stop | cancel => cases outside
  | terminate signal =>
    have requested : t.requestStop.gate = t.gate ∧ t.requestStop.maxBursts = t.maxBursts ∧
        t.requestStop.cancelling = t.cancelling := by
      unfold requestStop
      split <;> exact ⟨rfl, rfl, rfl⟩
    obtain ⟨gate, unlimited, cancelling⟩ := requested
    refine here.beside unended waits beside gate unlimited hasMishap_took terminate ?_ (.inr ?_)
    · change t.requestStop.cancelling = true ↔ _
      simp [cancelling, hasInterrupt_took, cut]
    · exact ⟨now, signal, by simp⟩
  | interrupt =>
    have after : true = true ↔ HasInterrupt (record ++ [.took now .interrupt]) := by
      simp [hasInterrupt_took]
    exact here.beside unended waits beside rfl rfl hasMishap_took terminate after (.inl ⟨rfl, rfl⟩)
  | connect | deliver | observe =>
    exact here.beside unended waits beside rfl rfl hasMishap_took terminate
      (cut.trans (by simp [hasInterrupt_took])) (.inl ⟨rfl, rfl⟩)

theorem IsOnRecord.takeAll (here : t.IsOnRecord record) (unended : t.ended = none)
    (waits : t.canWait = true) (now : Time) {inputs : List Input}
    (outside : ∀ input ∈ inputs, input.isOutside = true) :
    (machine.takeAll now inputs t).IsOnRecord (record ++ inputs.map (.took now)) := by
  unfold Machine.takeAll
  induction inputs generalizing t record with
  | nil =>
    rw [List.map_nil, List.append_nil]
    exact here
  | cons input rest ih =>
    rw [List.forall_mem_cons] at outside
    have beside := t.beside_take now input
    rw [List.foldl_cons, List.map_cons, List.append_cons]
    exact ih (here.take unended waits now outside.1) (beside.ended.trans unended)
      (beside.canWait.trans waits) outside.2

/-- A session from its start up to a limit, and all that happens to it. -/
def recorded (s : Session) (inputs : List (Time × Input)) (limit : Time) : Session × Record :=
  (Simulation.drive machine.recording ((s, []), []) 0 inputs limit fun s => s.1.isOver).state

theorem recorded_fst (s : Session) (inputs : List (Time × Input)) (limit : Time) :
    (s.recorded inputs limit).1 = (Simulation.drive machine (s, []) 0 inputs limit isOver).state :=
  congrArg Simulation.state (Simulation.drive_unrecorded machine (s, []) 0 inputs limit isOver)

/-- What is simulated up to the end of a session is what is recorded. -/
theorem state_simulate {inputs : List (Time × Input)} {limit : Time}
    (finished : (s.simulate inputs limit isOver).2 = true) :
    (s.simulate inputs limit isOver).1.state = (s.recorded inputs limit).1 := by
  rw [recorded_fst]
  unfold simulate at finished ⊢
  dsimp only at finished ⊢
  split at finished
  · next ended => rw [if_pos ended]
  · cases finished

theorem recorded_unfolds (s : Session) (inputs : List (Time × Input)) (limit : Time) :
    machine.Unfolds s (s.recorded inputs limit).1 := by
  rw [recorded_fst]
  unfold Simulation.drive
  refine Simulation.run_unfolds machine ?_ limit isOver _
  exact .start

theorem IsTidy.done {ended : Time × Outcome Unit} (tidy : IsTidy s t) (finished : t.ended = some ended) :
    t.stage = .done := by
  have place := tidy.place
  cases stage : t.stage <;> simp only [stage] at place
  case fresh | gathering => simp [place.ended] at finished
  case dialing | connected => simp [place.1.ended] at finished
  case pacing | winding => simp [place.2.1] at finished
  case done => rfl

section Recorded

variable {settings : Settings} {counters : Payload.Counters} {receiver : Receiver} {network : Network}
  (built : ofSettings? settings counters receiver network = .ok s) (plain : network.IsPlain)

include built plain

theorem isTidy_of_isPlain (unfolded : machine.Unfolds s t) : IsTidy s t := by
  have plans := plain.opened settings.target
  obtain ⟨g, p, -, -, rfl⟩ := eq_of_ofSettings? built
  exact isTidy_of_unfolds built plans unfolded

/-- The record of every session in a plain network. -/
theorem isOnRecord_recorded {inputs : List (Time × Input)}
    (outside : ∀ input ∈ inputs, input.2.isOutside = true) (limit : Time) :
    (s.recorded inputs limit).1.IsOnRecord (s.recorded inputs limit).2 := by
  have start : s.IsOnRecord [] := by
    obtain ⟨g, p, -, -, rfl⟩ := eq_of_ofSettings? built
    exact ⟨plain, nofun, rfl, nofun, by simp [HasInterrupt], by simp [Fits, HasMishap]⟩
  have unended {t : Session} (going : t.isOver = false) : t.ended = none := by
    simpa [isOver] using going
  refine Simulation.drive_recorded (Q := fun input => input.isOutside = true) machine start ?_ ?_ 0
    outside limit
  · intro t record now unfolded going here
    exact isOnRecord_act here (isTidy_of_isPlain built plain unfolded) (unended going) now
  · intro t record now inputs unfolded going here waits allowed
    exact here.takeAll (unended going) (canWait_of_wake waits) now allowed

/-- What happened to a session that came to its end in a plain network accounts for how it ended. -/
theorem isAccountedFor_recorded {inputs : List (Time × Input)}
    (outside : ∀ input ∈ inputs, input.2.isOutside = true) {limit time : Time} {outcome : Outcome Unit}
    (ended : (s.recorded inputs limit).1.ended = some (time, outcome)) :
    IsAccountedFor (s.recorded inputs limit).2 outcome := by
  have place := (isOnRecord_recorded built plain outside limit).place
  have tidy := isTidy_of_isPlain built plain (s.recorded_unfolds inputs limit)
  rw [tidy.done ended] at place
  obtain ⟨_, _, same, accounted⟩ := place
  rw [ended] at same
  cases same
  exact accounted

end Recorded

end Session

end BurstLoad
