import BurstLoad.Pacer.Basic
import BurstLoad.Pacer.Carrier

/-!
A run of bursts. Each burst starts at the later of two moments: the length of a burst after the
start of the one before, and the end of that one; lost time is not made up. A stop request is
looked at between bursts only, and ends the wait for the next one at once. A failed send ends the
run without a retry.
-/

set_option autoImplicit false

namespace BurstLoad

structure Reaction where
  stop : Bool := false
  fault : Option Fault := none

inductive Phase where
  -- between two bursts
  | looking
  -- in a burst with so many transactions still to be sent
  | sending (burst : Burst) (left : Nat)
  -- a transaction is under way until the moment `due`
  | inFlight (burst : Burst) (left : Nat) (flight : Flight) (due : Time)
  -- until the next burst
  | resting (due : Option Time)
  -- the run returned, or was ended by a fault
  | ended (fault : Option Fault)
  | cancelled

structure Run where
  pacer : Pacer
  carrier : Carrier
  phase : Phase := .looking
  -- a stop was requested
  stop : Bool := false
  maxBursts : Option Int := none
  observer : Burst → Reaction := fun _ => {}
  -- the bursts that the observer saw
  observed : Array Burst := #[]

namespace Run

def start (pacer : Pacer) (carrier : Carrier) (stop : Bool) (maxBursts : Option Int) :
    Run × List Notice :=
  ({ pacer := { pacer with status := .running }, carrier, stop, maxBursts }, [Pacer.startNotice])

def isOver (r : Run) : Bool :=
  match r.phase with
  | .ended _ => true
  | .cancelled => true
  | _ => false

def wake (r : Run) : Wake :=
  match r.phase with
  | .looking | .sending _ _ => .running
  -- what takes no time is no wait
  | .inFlight _ _ flight due => if flight.delay ≤ 0 then .running else .waking due
  | .resting due => if r.stop then .running else .ofTime? due
  | .ended _ | .cancelled => .idle

/-- Whether the last burst took its whole window, so that the next one follows without a wait. -/
def isLate (r : Run) : Bool :=
  r.observed.back?.any fun burst => burst.nominal.reachedBy burst.elapsed

/-- Ends the run as a stop request or the limit on bursts asks. -/
def finish (r : Run) : Run :=
  { r with pacer := { r.pacer with status := .stopped }, phase := .ended none }

/-- The end of a burst all of whose transactions went through. After a failure in an earlier run
this one fails too. -/
def endBurst (r : Run) (now : Time) (burst : Burst) : Run × List Notice :=
  if r.pacer.stats.failure.isSome then
    ({ r with pacer := { r.pacer with status := .failed }, phase := .ended none }, [])
  else
    let burst := { burst with elapsed := now - burst.started }
    let notices := if burst.overrun then [Pacer.overrunNotice] else []
    let reaction := r.observer burst
    let r := { r with
      pacer := r.pacer.completeBurst burst
      observed := r.observed.push burst
      stop := r.stop || reaction.stop }
    match reaction.fault with
    | some fault => ({ r with phase := .ended (some fault) }, notices)
    | none =>
      if r.pacer.reached r.maxBursts then (r.finish, notices)
      else ({ r with phase := .resting (r.pacer.nominal.after burst.started) }, notices)

def launch (r : Run) (now : Time) (burst : Burst) (left : Nat) : Run × List Notice :=
  let (generator, emission) := r.pacer.generator.next
  let (carrier, flight) := r.carrier.launch now emission.payload
  ({ r with
      pacer := { r.pacer with generator }
      carrier
      phase := .inFlight burst left flight (now + flight.delay) }, emission.notices)

def land (r : Run) (now : Time) (burst : Burst) (left : Nat) (flight : Flight) :
    Run × List Notice :=
  match r.carrier.land now flight with
  | (carrier, none) =>
    ({ r with
        pacer := r.pacer.countPayload
        carrier
        phase := .sending { burst with sent := burst.sent + 1 } left }, [])
  | (carrier, some fault) =>
    if fault.isTransport then
      ({ r with pacer := r.pacer.fail fault, carrier, phase := .ended none },
        [Pacer.failureNotice fault])
    else ({ r with carrier, phase := .ended (some fault) }, [])

def act (now : Time) (r : Run) : Run × List Notice :=
  match r.phase with
  | .looking =>
    if r.stop then (r.finish, [])
    else
      ({ r with phase := .sending (r.pacer.openBurst now) r.pacer.rate }, [Pacer.burstNotice])
  | .sending burst 0 => r.endBurst now burst
  | .sending burst (left + 1) => r.launch now burst left
  | .inFlight burst left flight _ => r.land now burst left flight
  | .resting _ => ({ r with phase := .looking }, [])
  | .ended _ | .cancelled => (r, [])

inductive Input where
  | stop
  | cancel

/-- Ends the run, unless it is over. -/
def interrupt (r : Run) : Run :=
  if r.isOver then r else { r with phase := .cancelled }

/-- Whether a stop request is about to end the wait for the next burst. -/
def isStopping (r : Run) : Bool :=
  match r.phase with
  | .resting _ => r.stop
  | _ => false

/-- Takes a stop request, which is only noted, or a cancellation, which ends the run unless a stop
request of the same instant is about to do so. -/
def take (_now : Time) (input : Input) (r : Run) : Run × List Notice :=
  match input with
  | .stop => ({ r with stop := true }, [])
  | .cancel => (if r.isStopping then r else r.interrupt, [])

def machine : Machine Run Input := ⟨wake, act, take⟩

end Run

end BurstLoad
