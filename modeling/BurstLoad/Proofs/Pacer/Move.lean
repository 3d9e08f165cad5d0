import BurstLoad.Proofs.Course
import BurstLoad.Proofs.Pacer.Wire

/-! What a run of bursts does when it acts: one case for each way that an act can go, with all that
has to hold for it to go so. Beside it, when a run acts, and what an input does to it. -/

set_option autoImplicit false

namespace BurstLoad

theorem Carrier.land_snd (c : Carrier) (now : Time) (flight : Flight) :
    (c.land now flight).2 = flight.fault := by
  cases c with
  | bare plan attempts sent =>
    unfold land
    cases flight.fault <;> rfl
  | framed link => exact link.fault_land flight

/-- A burst that is over at a moment. -/
def Burst.closedAt (b : Burst) (now : Time) : Burst :=
  { b with elapsed := now - b.started }

namespace Run

/-- The run with a burst more, before it looks whether it goes on. -/
def completed (r : Run) (burst : Burst) : Run :=
  { r with
    pacer := r.pacer.completeBurst burst
    observed := r.observed.push burst
    stop := r.stop || (r.observer burst).stop }

inductive Move (now : Time) (r : Run) : Run → Prop where
  | leave : r.phase = .looking → r.stop = true → Move now r r.finish
  | begin : r.phase = .looking → r.stop = false →
    Move now r { r with phase := .sending (r.pacer.openBurst now) r.pacer.rate }
  | launch {burst : Burst} {left : Nat} {carrier : Carrier} {flight : Flight} :
    r.phase = .sending burst (left + 1) →
    r.carrier.launch now r.pacer.generator.next.2.payload = (carrier, flight) →
    Move now r { r with
      pacer := { r.pacer with generator := r.pacer.generator.next.1 }
      carrier
      phase := .inFlight burst left flight (now + flight.delay) }
  | land {burst : Burst} {left : Nat} {flight : Flight} {due : Time} {carrier : Carrier} :
    r.phase = .inFlight burst left flight due → r.carrier.land now flight = (carrier, none) →
    Move now r { r with
      pacer := r.pacer.countPayload
      carrier
      phase := .sending { burst with sent := burst.sent + 1 } left }
  | fail {burst : Burst} {left : Nat} {flight : Flight} {due : Time} {carrier : Carrier}
    {fault : Fault} :
    r.phase = .inFlight burst left flight due →
    r.carrier.land now flight = (carrier, some fault) → fault.isTransport = true →
    Move now r { r with pacer := r.pacer.fail fault, carrier, phase := .ended none }
  | breakOff {burst : Burst} {left : Nat} {flight : Flight} {due : Time} {carrier : Carrier}
    {fault : Fault} :
    r.phase = .inFlight burst left flight due →
    r.carrier.land now flight = (carrier, some fault) → fault.isTransport = false →
    Move now r { r with carrier, phase := .ended (some fault) }
  -- the failure of an earlier run ends this one after its first burst
  | relapse {burst : Burst} : r.phase = .sending burst 0 → r.pacer.stats.failure.isSome = true →
    Move now r { r with pacer := { r.pacer with status := .failed }, phase := .ended none }
  | object {burst : Burst} {fault : Fault} :
    r.phase = .sending burst 0 → r.pacer.stats.failure = none →
    (r.observer (burst.closedAt now)).fault = some fault →
    Move now r { r.completed (burst.closedAt now) with phase := .ended (some fault) }
  | suffice {burst : Burst} : r.phase = .sending burst 0 → r.pacer.stats.failure = none →
    (r.observer (burst.closedAt now)).fault = none →
    (r.completed (burst.closedAt now)).pacer.reached r.maxBursts = true →
    Move now r (r.completed (burst.closedAt now)).finish
  | rest {burst : Burst} : r.phase = .sending burst 0 → r.pacer.stats.failure = none →
    (r.observer (burst.closedAt now)).fault = none →
    (r.completed (burst.closedAt now)).pacer.reached r.maxBursts = false →
    Move now r { r.completed (burst.closedAt now) with
      phase := .resting (r.pacer.nominal.after burst.started) }
  | look {due : Option Time} : r.phase = .resting due → Move now r { r with phase := .looking }

theorem move_endBurst {r : Run} {burst : Burst} (sent : r.phase = .sending burst 0) (now : Time) :
    Move now r (r.endBurst now burst).1 := by
  unfold endBurst
  split
  · next failed => exact .relapse sent failed
  · next sound =>
    have unfailed : r.pacer.stats.failure = none := by simpa using sound
    dsimp only
    split
    · next objection => exact .object sent unfailed objection
    · next silent =>
      split
      · next reached => exact .suffice sent unfailed silent reached
      · next below => exact .rest sent unfailed silent (Bool.eq_false_iff.mpr below)

theorem move_land {r : Run} {burst : Burst} {left : Nat} {flight : Flight} {due : Time}
    (underWay : r.phase = .inFlight burst left flight due) (now : Time) :
    Move now r (r.land now burst left flight).1 := by
  unfold land
  split
  · next landed => exact .land underWay landed
  · next landed =>
    split
    · next transport => exact .fail underWay landed transport
    · next other => exact .breakOff underWay landed (Bool.eq_false_iff.mpr other)

theorem move_act {r : Run} (going : r.isOver = false) (now : Time) : Move now r (r.act now).1 := by
  unfold act
  split
  · next looking =>
    split
    · next stop => exact .leave looking stop
    · next go => exact .begin looking (Bool.eq_false_iff.mpr go)
  · next sent => exact move_endBurst sent now
  · next sending => exact .launch sending rfl
  · next underWay => exact move_land underWay now
  · next resting => exact .look resting
  · next finished =>
    rw [isOver, finished] at going
    cases going
  · next finished =>
    rw [isOver, finished] at going
    cases going

/-- An input leaves a run as it is, but for a stop request that is noted or a cancellation. -/
theorem take_eq (r : Run) (now : Time) (input : Input) :
    (r.take now input).1 = r ∨ (r.take now input).1 = { r with stop := true } ∨
      r.isOver = false ∧ (r.take now input).1 = { r with phase := .cancelled } := by
  cases input with
  | stop => exact .inr (.inl rfl)
  | cancel =>
    unfold take interrupt
    dsimp only
    split
    · exact .inl rfl
    · split
      · exact .inl rfl
      · next going => exact .inr (.inr ⟨Bool.eq_false_iff.mpr going, rfl⟩)

section Wake

variable {r : Run} {now : Time}

theorem moment?_of_looking (looking : r.phase = .looking) :
    (machine.wake r).moment? now = some now := by
  change r.wake.moment? now = some now
  rw [wake, looking]
  rfl

theorem moment?_of_sending {burst : Burst} {left : Nat} (sending : r.phase = .sending burst left) :
    (machine.wake r).moment? now = some now := by
  change r.wake.moment? now = some now
  rw [wake, sending]
  rfl

theorem moment?_of_resting {time : Option Time} (resting : r.phase = .resting time) :
    (machine.wake r).moment? now =
      if r.stop then some now else time.map fun time => now.later time := by
  change r.wake.moment? now = _
  rw [wake, resting]
  dsimp only
  split
  · rfl
  · cases time <;> rfl

end Wake

theorem going_of_moment? {r : Run} {now due : Time}
    (wakes : (machine.wake r).moment? now = some due) : r.isOver = false := by
  cases phase : r.phase with
  | ended | cancelled =>
    change r.wake.moment? now = some due at wakes
    rw [wake, phase] at wakes
    cases wakes
  | looking | sending | inFlight | resting => rw [isOver, phase]

/-- A run stays on the connection on which it began. -/
theorem Move.framed {r next : Run} {now : Time} (move : Move now r next)
    (framed : ∃ link, r.carrier = .framed link) : ∃ link, next.carrier = .framed link := by
  obtain ⟨link, same⟩ := framed
  cases move with
  | launch _ launched =>
    rw [same] at launched
    cases launched
    exact ⟨_, rfl⟩
  | land _ landed | fail _ landed | breakOff _ landed =>
    rw [same, land_framed] at landed
    exact ⟨_, (Prod.mk.inj landed).1.symm⟩
  | leave | begin | relapse | object | suffice | rest | look => exact ⟨link, same⟩

end Run

end BurstLoad
