import BurstLoad.Proofs.Pacer.Wire
import BurstLoad.Proofs.Session.Move
import BurstLoad.Proofs.Settings.Bounds
import BurstLoad.Proofs.Simulation

/-! What a session puts on the connection to its target. At every point of every run the bytes that
were taken are whole frames of the transactions that the counters at the start fix, as many as were
counted, or one more whose send has not come to a good end. -/

set_option autoImplicit false

namespace BurstLoad.Session

open Payload (Generator)

/-- The chunks that the target's connection took. -/
def taken (s : Session) : List Bytes :=
  match s.link? with
  | some link => link.wire.taken
  | none => []

/-- The bytes that the target's connection took. -/
def written (s : Session) : Bytes :=
  s.taken.flatten

/-- The send that is under way. -/
def flight? (s : Session) : Option Flight :=
  match s.stage with
  | .pacing run =>
    match run.phase with
    | .inFlight _ _ flight _ => some flight
    | _ => none
  | _ => none

/-- A send is under way that will fail, or that a cancellation is about to cut off. -/
def IsFailing (s : Session) : Prop :=
  ∃ flight, s.flight? = some flight ∧ (flight.fault.isSome ∨ s.cancelling = true)

/-- On the way from one session to another a send failed or was cut off. -/
def CutShort (s t : Session) : Prop :=
  ∃ u, machine.Reaches s u ∧ u.IsFailing ∧ machine.Reaches u t

/-- Nothing was sent yet. -/
structure IsUnused (g : Generator) (rate : Nat) (p : Pacer) : Prop where
  pace : p.rate = rate
  generator : p.generator = g
  stats : p.stats = {}

/-- The invariant of a session whose pacer began with a generator, stage by stage. -/
def Upholds (g : Generator) (rate : Nat) (cut : Prop) (s : Session) : Prop :=
  match s.stage with
  | .fresh | .gathering | .dialing _ _ => IsUnused g rate s.pacer ∧ s.closedLink = none
  | .connected link => IsUnused g rate s.pacer ∧ link.Carries (g.payloadAt rate) 0
  | .pacing run => run.Upholds g rate cut
  | .winding link _ => link.CarriesAtEnd (g.payloadAt rate) s.pacer.stats.payloads cut
  | .done =>
    match s.closedLink with
    | none => s.pacer.stats.payloads = 0
    | some link => link.CarriesAtEnd (g.payloadAt rate) s.pacer.stats.payloads cut

theorem flight?_of_inFlight {s : Session} {run : Run} {burst : Burst} {left : Nat}
    {flight : Flight} {due : Time} (pacing : s.stage = .pacing run)
    (underWay : run.phase = .inFlight burst left flight due) : s.flight? = some flight := by
  simp only [flight?, pacing, underWay]

theorem pacing_of_flight? {s : Session} {flight : Flight} (underWay : s.flight? = some flight) :
    ∃ run, s.stage = .pacing run := by
  unfold flight? at underWay
  split at underWay
  · next run stage => exact ⟨run, stage⟩
  · cases underWay

theorem inFlight_of_flight? {s : Session} {run : Run} {flight : Flight}
    (pacing : s.stage = .pacing run) (underWay : s.flight? = some flight) :
    ∃ burst left due, run.phase = .inFlight burst left flight due := by
  simp only [flight?, pacing] at underWay
  split at underWay
  · next burst left other due phase =>
    cases underWay
    exact ⟨burst, left, due, phase⟩
  · cases underWay

section Step

variable {g : Generator} {rate : Nat} {cut : Prop} {s : Session}

theorem upholds_wind {link : Link}
    (atEnd : link.CarriesAtEnd (g.payloadAt rate) s.pacer.stats.payloads cut) (now : Time)
    (cause : Outcome Unit) : (s.wind now link cause).1.Upholds g rate cut := by
  obtain ⟨outcome, same⟩ := s.wind_fst now link cause
  rw [same]
  exact atEnd.close

/-- A session that ends before it has a connection has sent nothing. -/
theorem upholds_finish (unused : IsUnused g rate s.pacer) (unopened : s.closedLink = none)
    (now : Time) (outcome : Outcome Unit) : (s.finish now outcome).Upholds g rate cut := by
  simp only [Upholds, finish, unopened]
  rw [unused.stats]

/-- An act keeps the invariant, if `cut` allows for a send that now fails or is cut off. -/
theorem upholds_act (upholds : s.Upholds g rate cut) (short : g.size < Bytes.wordCount)
    (failing : s.IsFailing → cut) (now : Time) : (s.act now).1.Upholds g rate cut := by
  have move := s.move_act now
  generalize (s.act now).1 = next at move
  unfold Upholds at upholds
  cases move with
  | cancelEarly _ early =>
    have unused : IsUnused g rate s.pacer ∧ s.closedLink = none := by
      obtain fresh | ⟨_, _, dialing⟩ := early
      · rw [fresh] at upholds
        exact upholds
      · rw [dialing] at upholds
        exact upholds
    exact upholds_finish (s := { s with cancelling := false }) unused.1 unused.2 now .cancelled
  | cancelGate _ gathering =>
    rw [gathering] at upholds
    exact upholds_finish (s := { s with cancelling := false, gate := s.gate.cancel })
      upholds.1 upholds.2 now .cancelled
  | cancelLink _ linked =>
    obtain connected | ⟨_, winding⟩ := linked
    · rw [connected] at upholds
      refine upholds_wind (s := { s with cancelling := false }) (.inl ?_) now .cancelled
      dsimp only
      rw [upholds.1.stats]
      exact upholds.2
    · rw [winding] at upholds
      exact upholds_wind (s := { s with cancelling := false }) upholds now .cancelled
  | cancelRun cancelling pacing framed =>
    rw [pacing] at upholds
    obtain ⟨link, same, atEnd⟩ := Run.Upholds.atEnd upholds fun burst left flight due sending =>
      failing ⟨flight, flight?_of_inFlight pacing sending, .inr cancelling⟩
    rw [framed] at same
    cases same
    exact upholds_wind atEnd now .cancelled
  | cancelNothing | turn | probe | stay => exact upholds
  | gather _ fresh =>
    rw [fresh] at upholds
    exact upholds
  | dial _ early =>
    obtain ⟨fresh, -⟩ | ⟨gathering, -⟩ := early
    · rw [fresh] at upholds
      exact upholds
    · rw [gathering] at upholds
      exact upholds
  | giveUp _ gathering =>
    rw [gathering] at upholds
    exact upholds_finish upholds.1 upholds.2 now _
  | refuse _ dialing =>
    rw [dialing] at upholds
    exact upholds_finish upholds.1 upholds.2 now _
  | connect _ dialing =>
    rw [dialing] at upholds
    exact ⟨upholds.1, .fresh _ _ _⟩
  | bindFail _ connected =>
    rw [connected] at upholds
    refine .inl ?_
    dsimp only
    rw [upholds.1.stats]
    exact upholds.2
  | listen _ connected =>
    rw [connected] at upholds
    obtain ⟨unused, empty⟩ := upholds
    have started : (Run.start s.pacer _ s.stop s.maxBursts).1.Upholds g rate cut :=
      .start unused.pace unused.generator unused.stats empty s.stop s.maxBursts
    exact started
  | pace _ pacing =>
    rw [pacing] at upholds
    -- A run whose send will fail is a session whose send will fail.
    refine Run.Upholds.act upholds short (fun breaking => failing ?_) now
    obtain ⟨burst, left, flight, due, underWay, fault⟩ := breaking
    exact ⟨flight, flight?_of_inFlight pacing underWay, .inl fault⟩
  | leave _ pacing finished framed =>
    rw [pacing] at upholds
    obtain ⟨link, same, atEnd⟩ := Run.Upholds.atEnd upholds fun burst left flight due underWay => by
      rw [Run.isOver, underWay] at finished
      cases finished
    rw [framed] at same
    cases same
    exact atEnd
  | wind _ winding =>
    rw [winding] at upholds
    exact upholds_wind upholds now _

theorem upholds_requestStop (upholds : s.Upholds g rate cut) :
    s.requestStop.Upholds g rate cut := by
  unfold requestStop
  split
  · next run stage =>
    unfold Upholds at upholds
    rw [stage] at upholds
    exact upholds
  · exact upholds

theorem upholds_take (upholds : s.Upholds g rate cut) (now : Time) (input : Input) :
    (s.take now input).1.Upholds g rate cut := by
  cases input with
  | stop | terminate => exact upholds_requestStop upholds
  | cancel =>
    unfold take requestCancel
    dsimp only
    split <;> exact upholds
  | interrupt | connect | deliver | observe => exact upholds

end Step

/-- On every way from a session that has sent nothing, the invariant holds; what was cut short is what
the way has shown. -/
theorem upholds_of_reaches {g : Generator} {rate : Nat} {s t : Session} (fresh : s.stage = .fresh)
    (unused : IsUnused g rate s.pacer) (unopened : s.closedLink = none)
    (short : g.size < Bytes.wordCount) (reached : machine.Reaches s t) :
    t.Upholds g rate (CutShort s t) := by
  -- The way grows while `cut` stays, so the induction is for any `cut` that the way implies.
  have general (cut : Prop) (covered : CutShort s t → cut) : t.Upholds g rate cut := by
    induction reached with
    | start =>
      unfold Upholds
      rw [fresh]
      exact ⟨unused, unopened⟩
    | act now before ih =>
      refine upholds_act (ih fun earlier => covered ?_) short (fun failing => covered ?_) now
      · obtain ⟨u, toward, failing, onward⟩ := earlier
        exact ⟨u, toward, failing, onward.act now⟩
      · exact ⟨_, before, failing, .act now .start⟩
    | take now input before ih =>
      refine upholds_take (ih fun earlier => covered ?_) now input
      obtain ⟨u, toward, failing, onward⟩ := earlier
      exact ⟨u, toward, failing, onward.take now input⟩
  exact general _ id

/-- What the connection took, at any point: the frames that were counted, or one more whose send is
under way or was cut short. -/
theorem taken_of_upholds {g : Generator} {rate : Nat} {cut : Prop} {s : Session}
    (upholds : s.Upholds g rate cut) :
    ∃ count, s.taken = (List.range count).map (fun place => Frame.wrap (g.payloadAt rate place)) ∧
      (count = s.currentPacer.stats.payloads ∨
        count = s.currentPacer.stats.payloads + 1 ∧ (s.flight?.isSome ∨ cut)) := by
  have ofLink {link : Link} {counted : Nat} {more : Prop}
      (atEnd : link.CarriesAtEnd (g.payloadAt rate) counted more) :
      ∃ count, link.wire.taken =
          (List.range count).map (fun place => Frame.wrap (g.payloadAt rate place)) ∧
        (count = counted ∨ count = counted + 1 ∧ more) := by
    obtain exactly | ⟨reason, oneMore⟩ := atEnd
    · exact ⟨_, exactly, .inl rfl⟩
    · exact ⟨_, oneMore, .inr ⟨rfl, reason⟩⟩
  unfold Upholds at upholds
  unfold taken link? currentPacer flight?
  cases stage : s.stage <;> rw [stage] at upholds
  case fresh | gathering | dialing =>
    -- No connection is there yet, and nothing is counted.
    dsimp only
    rw [upholds.2, upholds.1.stats]
    exact ⟨0, rfl, .inl rfl⟩
  case connected link =>
    dsimp only
    rw [upholds.1.stats]
    exact ⟨0, upholds.2, .inl rfl⟩
  case pacing run =>
    have covered : run.Upholds g rate (s.flight?.isSome ∨ cut) := Run.Upholds.mono upholds .inr
    obtain ⟨link, framed, atEnd⟩ := covered.atEnd fun burst left flight due sending =>
      .inl (by rw [flight?_of_inFlight stage sending]; rfl)
    dsimp only
    rw [framed]
    have shown := ofLink atEnd
    unfold flight? at shown
    rw [stage] at shown
    exact shown
  case winding link cause =>
    obtain ⟨count, frames, counted⟩ := ofLink upholds
    exact ⟨count, frames, counted.imp_right fun more => ⟨more.1, .inr more.2⟩⟩
  case done =>
    dsimp only
    cases closed : s.closedLink <;> rw [closed] at upholds
    case none => exact ⟨0, rfl, .inl upholds.symm⟩
    case some link =>
      obtain ⟨count, frames, counted⟩ := ofLink upholds
      exact ⟨count, frames, counted.imp_right fun more => ⟨more.1, .inr more.2⟩⟩

end BurstLoad.Session
