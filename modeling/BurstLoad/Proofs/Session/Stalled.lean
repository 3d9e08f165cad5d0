import BurstLoad.Proofs.Session.Wire

/-! After a send that failed or was cut off. From the moment at which a send is bound to fail, a session
only winds up, and its connection takes nothing more. -/

set_option autoImplicit false

namespace BurstLoad.Session

open Payload (Generator)

/-- The connection has taken what it ever takes: the bursts are over, or the send under way is about
to end them. -/
def IsStalled (chunks : List Bytes) (s : Session) : Prop :=
  match s.stage with
  | .pacing run =>
    (run.isOver = true ∨ s.IsFailing) ∧
      ∃ link, run.carrier = .framed link ∧ link.wire.taken = chunks
  | .winding link _ => link.wire.taken = chunks
  | .done => s.taken = chunks
  | .fresh | .gathering | .dialing _ _ | .connected _ => False

section Stalled

variable {chunks : List Bytes} {s : Session}

theorem IsStalled.taken (stalled : s.IsStalled chunks) : s.taken = chunks := by
  unfold IsStalled at stalled
  unfold Session.taken link?
  cases stage : s.stage <;> rw [stage] at stalled
  case fresh | gathering | dialing | connected => exact stalled.elim
  case pacing run =>
    obtain ⟨-, link, framed, same⟩ := stalled
    dsimp only
    rw [framed]
    exact same
  case winding link cause => exact stalled
  case done =>
    unfold Session.taken link? at stalled
    rw [stage] at stalled
    exact stalled

theorem isStalled_wind {link : Link} (same : link.wire.taken = chunks) (now : Time)
    (cause : Outcome Unit) : (s.wind now link cause).1.IsStalled chunks := by
  obtain ⟨outcome, result⟩ := s.wind_fst now link cause
  rw [result]
  exact link.taken_close.trans same

/-- A send that will fail ends the run and leaves the connection as it is. -/
theorem isOver_land {run : Run} {burst : Burst} {left : Nat} {flight : Flight} {link : Link}
    (framed : run.carrier = .framed link) (same : link.wire.taken = chunks)
    (fault : flight.fault.isSome) (now : Time) :
    (run.land now burst left flight).1.isOver = true ∧
      ∃ link, (run.land now burst left flight).1.carrier = .framed link ∧
        link.wire.taken = chunks := by
  obtain ⟨reason, broken⟩ := Option.isSome_iff_exists.mp fault
  have kept : (link.land flight).1 = link := by
    unfold Link.land
    rw [broken]
  unfold Run.land
  rw [framed, Run.land_framed, broken, kept]
  dsimp only
  split <;> exact ⟨rfl, link, rfl, same⟩

theorem IsStalled.actMain (stalled : s.IsStalled chunks) (going : s.cancelling = false)
    (now : Time) : (s.actMain now).1.IsStalled chunks := by
  unfold IsStalled at stalled
  unfold Session.actMain
  cases stage : s.stage <;> rw [stage] at stalled
  case fresh | gathering | dialing | connected => exact stalled.elim
  case winding link cause => exact isStalled_wind stalled now cause
  case done =>
    unfold IsStalled
    rw [stage]
    exact stalled
  case pacing run =>
    obtain ⟨ending, link, framed, same⟩ := stalled
    dsimp only
    split
    · unfold leavePacing
      rw [framed]
      exact same
    · next unfinished =>
      obtain finished | ⟨flight, underWay, broken⟩ := ending
      · exact absurd finished unfinished
      · obtain ⟨burst, left, due, phase⟩ := inFlight_of_flight? stage underWay
        -- No cancellation is pending, so it is the send itself that fails.
        have fault : flight.fault.isSome := broken.resolve_right (by simp [going])
        obtain ⟨finished, kept⟩ := isOver_land framed same fault now
        unfold Run.act
        rw [phase]
        exact ⟨.inl finished, kept⟩

theorem IsStalled.cancel (stalled : s.IsStalled chunks) (now : Time) :
    (s.cancel now).1.IsStalled chunks := by
  unfold IsStalled at stalled
  unfold Session.cancel
  cases stage : s.stage <;> rw [stage] at stalled
  case fresh | gathering | dialing | connected => exact stalled.elim
  case winding link cause =>
    exact isStalled_wind (s := { s with cancelling := false }) stalled now .cancelled
  case done =>
    unfold Session.taken link? at stalled
    rw [stage] at stalled
    exact stalled
  case pacing run =>
    obtain ⟨-, link, framed, same⟩ := stalled
    unfold breakOff
    dsimp only
    rw [framed]
    exact isStalled_wind (s := { s with cancelling := false, pacer := run.pacer }) same now .cancelled

theorem IsStalled.act (stalled : s.IsStalled chunks) (now : Time) :
    (s.act now).1.IsStalled chunks := by
  unfold Session.act
  split
  · exact stalled.cancel now
  · next going =>
    split
    · exact stalled
    · split
      · exact stalled.actMain (Bool.eq_false_iff.mpr going) now
      · exact stalled

theorem IsStalled.requestStop (stalled : s.IsStalled chunks) :
    s.requestStop.IsStalled chunks := by
  unfold Session.requestStop
  split
  · next run stage =>
    unfold IsStalled at stalled
    rw [stage] at stalled
    obtain ⟨ending, kept⟩ := stalled
    refine ⟨ending.imp_right fun failing => ?_, kept⟩
    obtain ⟨flight, underWay, broken⟩ := failing
    obtain ⟨burst, left, due, phase⟩ := inFlight_of_flight? stage underWay
    exact ⟨flight, flight?_of_inFlight rfl phase, broken⟩
  · exact stalled

/-- A cancellation asked for cuts off a send that would fail anyway, or leaves all as it is. -/
theorem IsStalled.cancelling (stalled : s.IsStalled chunks) :
    ({ s with cancelling := true } : Session).IsStalled chunks := by
  unfold IsStalled at stalled ⊢
  dsimp only
  cases stage : s.stage <;> rw [stage] at stalled
  case fresh | gathering | dialing | connected => exact stalled
  case winding => exact stalled
  case done =>
    unfold Session.taken link? at stalled
    rw [stage] at stalled
    exact stalled
  case pacing run =>
    refine stalled.imp_left fun ending => ending.imp_right fun failing => ?_
    obtain ⟨flight, underWay, -⟩ := failing
    obtain ⟨burst, left, due, phase⟩ := inFlight_of_flight? stage underWay
    exact ⟨flight, flight?_of_inFlight rfl phase, .inr rfl⟩

theorem IsStalled.take (stalled : s.IsStalled chunks) (now : Time) (input : Input) :
    (s.take now input).1.IsStalled chunks := by
  cases input with
  | stop | terminate => exact stalled.requestStop
  | cancel =>
    unfold Session.take requestCancel
    dsimp only
    split
    · exact stalled
    · exact IsStalled.cancelling (s := { s with inbox := s.inbox.settle.1 }) stalled
  | interrupt => exact stalled.cancelling
  | connect | deliver | observe => exact stalled

/-- Nothing is written any more when a send is under way that will fail or is about to be cut off. -/
theorem written_of_isFailing {g : Generator} {rate : Nat} {cut : Prop} {t : Session}
    (upholds : s.Upholds g rate cut) (failing : s.IsFailing) (later : machine.Reaches s t) :
    t.written = s.written := by
  have stalled : s.IsStalled s.taken := by
    obtain ⟨flight, underWay, -⟩ := id failing
    obtain ⟨run, stage⟩ := pacing_of_flight? underWay
    unfold Upholds at upholds
    rw [stage] at upholds
    obtain ⟨link, framed, -⟩ := upholds
    unfold IsStalled taken link?
    rw [stage]
    dsimp only
    rw [framed]
    exact ⟨.inr failing, link, rfl, rfl⟩
  have kept : t.IsStalled s.taken :=
    later.invariant stalled (fun now _ here => here.act now) fun now input _ here =>
      here.take now input
  unfold written
  rw [kept.taken]

end Stalled

end BurstLoad.Session
