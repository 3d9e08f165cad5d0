import BurstLoad.Network.Basic
import BurstLoad.Simulation

/-!
Probing one node. A probe tries to connect again and again, with a pause after each network error,
until a connection is accepted; any other error ends it.
-/

set_option autoImplicit false

namespace BurstLoad

inductive ProbeStage where
  | unstarted (since : Time)
  | connecting (due : Time) (result : Except Fault Network.WirePlan)
  | pausing (due : Option Time)
  | online
  | failed (fault : Fault)
  | cancelled

structure Probe where
  peer : Endpoint
  attempts : Nat := 0
  stage : ProbeStage

namespace Probe

def wake (p : Probe) : Wake :=
  match p.stage with
  | .unstarted since => .waking since
  | .connecting due _ => .waking due
  | .pausing due => .ofTime? due
  | .online | .failed _ | .cancelled => .idle

def isOver (p : Probe) : Bool :=
  match p.stage with
  | .online | .failed _ | .cancelled => true
  | _ => false

def isOnline (p : Probe) : Bool :=
  match p.stage with
  | .online => true
  | _ => false

def fault? (p : Probe) : Option Fault :=
  match p.stage with
  | .failed fault => some fault
  | _ => none

def knock (p : Probe) (now : Time) (net : Network) : Probe × Network :=
  let (net, plan) := net.attempt now p.peer
  ({ p with attempts := p.attempts + 1, stage := .connecting (now + plan.delay) plan.result }, net)

def unreachableNotice (p : Probe) (fault : Fault) : Notice :=
  ⟨.debug, .barrier, "Node " ++ p.peer.print ++ " not reachable yet: " ++ fault.text⟩

def reachableNotice (p : Probe) : Notice :=
  ⟨.debug, .barrier, "Node " ++ p.peer.print ++ " reachable after " ++ toString p.attempts ++
    " attempt(s)"⟩

def miss (p : Probe) (retry : Span) (now : Time) (fault : Fault) : Probe × List Notice :=
  if fault.isNetwork then
    ({ p with stage := .pausing (retry.after now) }, [p.unreachableNotice fault])
  else ({ p with stage := .failed fault }, [])

/-- Ends an attempt that succeeded: the connection is closed again, and a network error on the way
does not count. -/
def hit (p : Probe) (plan : Network.WirePlan) (net : Network) :
    Probe × Network × List Notice :=
  match net.openAndClose p.peer plan with
  | (net, none) => ({ p with stage := .online }, net, [p.reachableNotice])
  | (net, some fault) =>
    if fault.isNetwork then ({ p with stage := .online }, net, [p.reachableNotice])
    else ({ p with stage := .failed fault }, net, [])

def act (p : Probe) (retry : Span) (now : Time) (net : Network) : Probe × Network × List Notice :=
  match p.stage with
  | .unstarted _ | .pausing _ =>
    let (p, net) := p.knock now net
    (p, net, [])
  | .connecting _ (.error fault) =>
    let (p, notices) := p.miss retry now fault
    (p, net, notices)
  | .connecting _ (.ok plan) => p.hit plan net
  | .online | .failed _ | .cancelled => (p, net, [])

def cancel (p : Probe) : Probe :=
  if p.isOver then p else { p with stage := .cancelled }

end Probe

end BurstLoad
