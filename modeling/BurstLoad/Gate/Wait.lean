import BurstLoad.Gate.Basic

/-!
Waiting at a gate on its own, outside a whole run: for all nodes, or for a single one without the
notices of the gate.
-/

set_option autoImplicit false

namespace BurstLoad

inductive Outcome (α : Type) where
  | returned (value : α)
  | failed (fault : Fault)
  | cancelled

def Outcome.map {α β : Type} (f : α → β) : Outcome α → Outcome β
  | .returned value => .returned (f value)
  | .failed fault => .failed fault
  | .cancelled => .cancelled

/-- The outcome of what fails or gives nothing. -/
def Outcome.ofFault? : Option Fault → Outcome Unit
  | some fault => .failed fault
  | none => .returned ()

structure GateWait where
  gate : Gate
  network : Network
  -- whether only the one probe is waited for
  single : Bool := false
  ended : Option (Time × Outcome Unit) := none

namespace GateWait

/-- Begins to wait; without nodes there is nothing to wait for. -/
def start (peers : List Endpoint) (retry : Span) (network : Network) : GateWait × List Notice :=
  let wait : GateWait := { gate := Gate.ofPeers peers retry 0, network }
  if peers.isEmpty then ({ wait with ended := some (0, .returned ()) }, [])
  else (wait, [Gate.waitingNotice])

def startSingle (peer : Endpoint) (retry : Span) (network : Network) : GateWait :=
  { gate := Gate.ofPeers [peer] retry 0, network, single := true }

/-- The wait ends as soon as the gate is open or has failed. -/
def wake (w : GateWait) : Wake :=
  if w.ended.isNone && w.gate.verdict?.isSome then .running else w.gate.wake

def act (now : Time) (w : GateWait) : GateWait × List Notice :=
  match w.ended, w.gate.verdict? with
  | none, some (.ok ()) =>
    ({ w with ended := some (now, .returned ()) },
      if w.single then [] else [Gate.openNotice w.gate.probes.length])
  | none, some (.error fault) => ({ w with ended := some (now, .failed fault) }, [])
  | _, _ =>
    let (gate, network, notices) := w.gate.act now w.network
    ({ w with gate, network }, notices)

def cancel (now : Time) (w : GateWait) : GateWait :=
  if w.ended.isSome then w
  else { w with gate := w.gate.cancel, ended := some (now, .cancelled) }

/-- Waits as machines in virtual time; the only input is a cancellation. -/
def machine : Machine GateWait Unit :=
  ⟨wake, act, fun now _ w => (w.cancel now, [])⟩

end GateWait

end BurstLoad
