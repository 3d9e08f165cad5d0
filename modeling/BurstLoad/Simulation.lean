import BurstLoad.Journal

/-!
Discrete events in virtual time. A machine says when it acts next; scripted inputs come at times of
their own. A step either lets the machine act or hands it all inputs of the next instant, and moves
the clock forward to that moment, never back.
-/

set_option autoImplicit false

namespace BurstLoad

inductive Wake where
  -- at once, before anything else happens
  | running
  -- at a moment, or now if that has passed; inputs of the same instant come first
  | waking (time : Time)
  -- not unless an input comes
  | idle
  deriving Repr, DecidableEq

def Wake.ofTime? : Option Time → Wake
  | some t => .waking t
  | none => .idle

/-- The earlier of two wakes, the first one if they agree. -/
def Wake.earlier : Wake → Wake → Wake
  | .running, _ => .running
  | _, .running => .running
  | .idle, w => w
  | w, .idle => w
  | .waking s, .waking t => if s ≤ t then .waking s else .waking t

/-- Something that acts in virtual time and takes inputs. -/
structure Machine (σ ι : Type) where
  wake : σ → Wake
  act : Time → σ → σ × List Notice
  take : Time → ι → σ → σ × List Notice

/-- A machine's state with the clock, the inputs still to come and the log so far. -/
structure Simulation (σ ι : Type) where
  now : Time
  state : σ
  inputs : List (Time × ι)
  journal : Journal := #[]

namespace Simulation

variable {σ ι : Type}

/-- The simulation after the machine has acted at a moment. -/
def acted (m : Machine σ ι) (s : Simulation σ ι) (time : Time) : Simulation σ ι :=
  let now := s.now.later time
  let (state, notices) := m.act now s.state
  { s with now, state, journal := s.journal.record now notices }

/-- The simulation after the machine has taken an input at a moment. -/
def taken (m : Machine σ ι) (s : Simulation σ ι) (now : Time) (input : ι)
    (rest : List (Time × ι)) : Simulation σ ι :=
  let (state, notices) := m.take now input s.state
  { now, state, inputs := rest, journal := s.journal.record now notices }

/-- The simulation after the machine has taken the first of some inputs and those of the same
instant, before it acts on any of them. -/
def takenAll (m : Machine σ ι) (now : Time) (s : Simulation σ ι) :
    List (Time × ι) → Simulation σ ι
  | [] => s
  | (t, i) :: rest => if t ≤ now then (s.taken m now i rest).takenAll m now rest else s

/-- One step, unless nothing more happens up to the limit. -/
def step? (m : Machine σ ι) (limit : Time) (s : Simulation σ ι) : Option (Simulation σ ι) :=
  match m.wake s.state, s.inputs with
  | .running, _ => some (acted m s s.now)
  | .idle, [] => none
  | .idle, (t, _) :: _ =>
    if t ≤ limit then some (s.takenAll m (s.now.later t) s.inputs) else none
  | .waking w, [] => if w ≤ limit then some (acted m s w) else none
  | .waking w, (t, _) :: _ =>
    if t ≤ s.now.later w then
      if t ≤ limit then some (s.takenAll m (s.now.later t) s.inputs) else none
    else if w ≤ limit then some (acted m s w) else none

/-- Steps until nothing more happens up to the limit, the state is final, or the fuel is used up. -/
def run (m : Machine σ ι) (limit : Time) (final : σ → Bool) :
    Nat → Simulation σ ι → Simulation σ ι
  | 0, s => s
  | fuel + 1, s =>
    if final s.state then s
    else match s.step? m limit with
      | none => s
      | some s => s.run m limit final fuel

/-- More steps than any run of a practical length has. -/
def plenty : Nat := 1000000000

/-- Drives a machine from a moment on, through inputs in the order of their times. What was noted at
its start comes first in the journal. -/
def drive (m : Machine σ ι) (start : σ × List Notice) (now : Time) (inputs : List (Time × ι))
    (limit : Time) (final : σ → Bool) : Simulation σ ι :=
  run m limit final plenty {
    now
    state := start.1
    inputs := inputs.mergeSort fun a b => decide (a.1 ≤ b.1)
    journal := Journal.record #[] now start.2 }

end Simulation

end BurstLoad
