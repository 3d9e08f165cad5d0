import BurstLoad.Gate.Probe

/-!
The gate in front of a run: it opens once every node has accepted a connection. All probes run at
the same time. An error that is not a network error fails the gate, and the other probes go on;
cancelling the gate ends all of them.
-/

set_option autoImplicit false

namespace BurstLoad

/-- The probes of all nodes, and the pause between two attempts. -/
structure Gate where
  retry : Span
  probes : List Probe

namespace Gate

/-- A gate whose probes have not begun yet. -/
def ofPeers (peers : List Endpoint) (retry : Span) (now : Time) : Gate :=
  ⟨retry, peers.map fun peer => { peer, stage := .unstarted now }⟩

/-- When the first probe goes on. -/
def wake (g : Gate) : Wake :=
  g.probes.foldr (fun p w => p.wake.earlier w) .idle

/-- Steps the first of the probes that go on at the earliest moment. -/
def actOn (retry : Span) (due : Wake) (now : Time) (net : Network) :
    List Probe → List Probe × Network × List Notice
  | [] => ([], net, [])
  | p :: rest =>
    if p.wake = due then
      let (p, net, notices) := p.act retry now net
      (p :: rest, net, notices)
    else
      let (rest, net, notices) := actOn retry due now net rest
      (p :: rest, net, notices)

def act (g : Gate) (now : Time) (net : Network) : Gate × Network × List Notice :=
  let (probes, net, notices) := actOn g.retry g.wake now net g.probes
  ({ g with probes }, net, notices)

/-- Whether the gate is open, or why it failed; nothing while probes are under way. -/
def verdict? (g : Gate) : Option (Except Fault Unit) :=
  match g.probes.findSome? Probe.fault? with
  | some fault => some (.error fault)
  | none => if g.probes.all Probe.isOnline then some (.ok ()) else none

def cancel (g : Gate) : Gate :=
  { g with probes := g.probes.map Probe.cancel }

def waitingNotice : Notice := ⟨.info, .barrier, "Waiting for all nodes to be online..."⟩

def openNotice (nodes : Nat) : Notice :=
  ⟨.info, .barrier, "All " ++ toString nodes ++ " node(s) are online"⟩

end Gate

end BurstLoad
