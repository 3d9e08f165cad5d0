import BurstLoad.Bytes
import BurstLoad.Endpoint
import BurstLoad.Fault
import BurstLoad.Journal

/-!
An outgoing connection whose other side follows a plan: how long each write takes to drain, which
writes fail and how, and how closing goes.
-/

set_option autoImplicit false

namespace BurstLoad.Network

structure WritePlan where
  delay : Time := 0
  fault : Option Fault := none
  -- the fault comes before any byte is taken
  refused : Bool := false

/-- How a connection goes: the plan of each write, and the fault that closing meets. -/
structure WirePlan where
  writes : Nat → WritePlan
  closeFault : Option Fault

/-- A connection on which everything succeeds at once. -/
def WirePlan.smooth : WirePlan := ⟨fun _ => {}, none⟩

instance : Inhabited WirePlan := ⟨.smooth⟩

structure Wire where
  address : Endpoint
  plan : WirePlan
  writes : Nat := 0
  written : Array (Time × Bytes) := #[]
  closes : Nat := 0

/-- What is left of a write after its bytes were taken. -/
structure Draining where
  delay : Time
  fault : Option Fault

/-- Writes bytes: they are taken, or refused with a fault. -/
def Wire.write (w : Wire) (now : Time) (bytes : Bytes) : Wire × Except Fault Draining :=
  let plan := w.plan.writes w.writes
  let w := { w with writes := w.writes + 1 }
  match plan.refused, plan.fault with
  | true, some fault => (w, .error fault)
  | _, fault => ({ w with written := w.written.push (now, bytes) }, .ok ⟨plan.delay, fault⟩)

/-- Closes the connection, which counts whether or not a fault is met. -/
def Wire.close (w : Wire) : Wire × Option Fault :=
  ({ w with closes := w.closes + 1 }, w.plan.closeFault)

end BurstLoad.Network
