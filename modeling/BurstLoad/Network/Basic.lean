import BurstLoad.Network.Wire

/-!
The network as a run meets it: for each endpoint the plan of each connection attempt, and whether
the listening socket can be bound. It remembers what was tried.
-/

set_option autoImplicit false

namespace BurstLoad

namespace Network

/-- How one connection attempt goes: after a delay it fails, or a connection opens. -/
structure AttemptPlan where
  delay : Time := 0
  result : Except Fault WirePlan := .ok .smooth

end Network

/-- The plans of the network, and what was tried on it. -/
structure Network where
  plan : Endpoint → Nat → Network.AttemptPlan := fun _ _ => {}
  bindFault : Option Fault := none
  -- the port bound for port 0
  freePort : Int := 50000
  -- how often each endpoint was tried
  tries : List (Endpoint × Nat) := []
  attempts : Array (Time × Endpoint) := #[]
  -- the connections opened by probes, each closed again
  probed : Array Network.Wire := #[]
  binds : Array Endpoint := #[]

namespace Network

def triesOf (n : Network) (e : Endpoint) : Nat :=
  ((n.tries.find? fun t => t.1 == e).map Prod.snd).getD 0

def countTry (e : Endpoint) : List (Endpoint × Nat) → List (Endpoint × Nat)
  | [] => [(e, 1)]
  | (f, k) :: rest => if f == e then (f, k + 1) :: rest else (f, k) :: countTry e rest

def attempt (n : Network) (now : Time) (e : Endpoint) : Network × AttemptPlan :=
  ({ n with tries := countTry e n.tries, attempts := n.attempts.push (now, e) },
    n.plan e (n.triesOf e))

def boundPort (n : Network) (port : Int) : Int :=
  if port = 0 then n.freePort else port

/-- Binds a listening socket; the answer is the bound port. -/
def bind (n : Network) (address : Endpoint) : Network × Except Fault Int :=
  ({ n with binds := n.binds.push address },
    match n.bindFault with
    | some fault => .error fault
    | none => .ok (n.boundPort address.port))

/-- A connection opened by a probe, and closed again. -/
def openAndClose (n : Network) (e : Endpoint) (plan : WirePlan) : Network × Option Fault :=
  let (wire, fault) := ({ address := e, plan } : Wire).close
  ({ n with probed := n.probed.push wire }, fault)

end Network

end BurstLoad
