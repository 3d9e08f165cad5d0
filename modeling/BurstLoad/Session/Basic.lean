import BurstLoad.Gate.Wait
import BurstLoad.Inbox.Basic
import BurstLoad.Pacer.Run
import BurstLoad.Settings.Basic

/-!
A whole run: log the parameters, wait until all nodes are reachable, connect to the target, open
the listener, send bursts. Whatever ends the bursts, the listener is stopped and the connection
closed before the run ends.
-/

set_option autoImplicit false

namespace BurstLoad

inductive Stage where
  | fresh
  | gathering
  -- until the target answers, which may be at once
  | dialing (due : Option Time) (result : Except Fault Network.WirePlan)
  -- connected, but not listening yet
  | connected (link : Link)
  | pacing (run : Run)
  -- the bursts are over; what was opened is to be closed
  | winding (link : Link) (cause : Outcome Unit)
  | done

structure Session where
  settings : Settings
  pacer : Pacer
  gate : Gate
  inbox : Inbox
  network : Network
  stage : Stage := .fresh
  stop : Bool := false
  -- a cancellation has been asked for and has not taken effect yet
  cancelling : Bool := false
  -- the connections that were woken before the main activity last went on, and have their turns to come
  ahead : Nat := 0
  maxBursts : Option Int := none
  -- the connection to the target, once it is closed
  closedLink : Option Link := none
  ended : Option (Time × Outcome Unit) := none
  observations : Array (Time × Status × Bool) := #[]

/-- A number of milliseconds as a length of time. Waits are counted in seconds, of which the least
floating-point numbers come to none; what is no number does not delay anything. -/
def Span.ofValue : Value → Span
  | .int n => .ms n
  | .bool b => .ms (if b then 1 else 0)
  | .float x =>
    if x / 1000 == 0 then .ms 0
    else match Time.ofFloat? x with
      | some n => .ms n
      | none => if x > 0 then .endless else .ms 0
  | _ => .ms 0

namespace Session

/-- A session for settled parameters, or why there is none: a size that no generator accepts, a
duration beyond the range of seconds, or a rate below zero. -/
def ofSettings? (s : Settings) (counters : Payload.Counters) (receiver : Receiver)
    (network : Network) : Except Settings.Failure Session := do
  let generator ← match Payload.Generator.ofSize? s.honest s.size counters with
    | .ok g => .ok g
    | .error cause => .error (.rejected cause)
  let _ ← Settings.seconds s.probeDelay
  let _ ← Settings.seconds s.burstDuration
  let pacer ← Pacer.ofRate? s.rate (.ofValue s.burstDuration) 0 generator
  pure {
    settings := s
    pacer
    gate := ⟨.ofValue s.probeDelay, []⟩
    inbox := { host := s.bindHost, port := s.port, receiver }
    network }

def parameterNotices (s : Settings) : List Notice :=
  let truth (b : Bool) := if b then "True" else "False"
  ["Node address: " ++ s.target.print,
    "Transactions size: " ++ toString s.size ++ " B",
    "Transactions rate: " ++ toString s.rate ++ " tx/s",
    "Local: " ++ truth s.isLocal,
    "Honest: " ++ truth s.honest].map fun text => ⟨.info, .client, text⟩

/-- What is logged at the end of a run that succeeded. -/
def finishedNotice (stats : Stats) : Notice :=
  ⟨.info, .client, "Stopped after " ++ toString stats.bursts ++ " burst(s), " ++
    toString stats.payloads ++ " transaction(s) sent"⟩

/-- The pacer, also while it is at work. -/
def currentPacer (s : Session) : Pacer :=
  match s.stage with
  | .pacing run => run.pacer
  | _ => s.pacer

/-- The connection to the target, if there is or was one. -/
def link? (s : Session) : Option Link :=
  match s.stage with
  | .connected link => some link
  | .pacing run =>
    match run.carrier with
    | .framed link => some link
    | .bare _ _ _ => none
  | .winding link _ => some link
  | _ => s.closedLink

def finish (s : Session) (now : Time) (outcome : Outcome Unit) : Session :=
  { s with stage := .done, ended := some (now, outcome) }

/-- Attempts to connect to the target, once. -/
def dial (s : Session) (now : Time) : Session :=
  let (network, plan) := s.network.attempt now s.settings.target
  let due := if plan.delay ≤ 0 then none else some (now + plan.delay)
  { s with network, stage := .dialing due plan.result }

/-- The first step: without nodes there is nothing to wait for. -/
def begin (s : Session) (now : Time) : Session × List Notice :=
  let notices := parameterNotices s.settings
  if s.settings.nodes.isEmpty then (s.dial now, notices)
  else
    ({ s with stage := .gathering, gate := Gate.ofPeers s.settings.nodes s.gate.retry now },
      notices ++ [Gate.waitingNotice])

def leaveGate (s : Session) (now : Time) (verdict : Except Fault Unit) : Session × List Notice :=
  match verdict with
  | .ok () => (s.dial now, [Gate.openNotice s.gate.probes.length])
  | .error fault => (s.finish now (.failed fault), [])

def answer (s : Session) (now : Time) (result : Except Fault Network.WirePlan) :
    Session × List Notice :=
  let target := s.settings.target
  match result with
  | .error fault => (s.finish now (.failed (Link.connectFault target fault)), [])
  | .ok plan =>
    ({ s with stage := .connected { wire := { address := target, plan } } },
      [Link.connectedNotice target])

/-- Opens the listener and begins the bursts; if that fails, all is closed again. -/
def listen (s : Session) (link : Link) : Session × List Notice :=
  match s.inbox.start s.network with
  | (inbox, network, some fault, notices) =>
    ({ s with inbox, network, stage := .winding link (.failed fault) }, notices)
  | (inbox, network, none, notices) =>
    let (run, more) := Run.start s.pacer (.framed link) s.stop s.maxBursts
    ({ s with inbox, network, stage := .pacing run }, notices ++ more)

def causeOf (run : Run) : Outcome Unit :=
  match run.phase with
  | .ended (some fault) => .failed fault
  | .cancelled => .cancelled
  | _ => .returned ()

def leavePacing (s : Session) (run : Run) : Session :=
  match run.carrier with
  | .framed link => { s with pacer := run.pacer, stage := .winding link (causeOf run) }
  | .bare _ _ _ => s

/-- Stops the listener and closes the connection. The cause of the end stays the outcome, unless
closing meets an error that is not a network error. Both are one act, in the course of which no input
can come: closing takes no time here. -/
def wind (s : Session) (now : Time) (link : Link) (cause : Outcome Unit) :
    Session × List Notice :=
  let (inbox, stopping) := s.inbox.stop
  let (link, fault?, closing) := link.close
  let s := { s with inbox, closedLink := some link }
  match fault?, cause with
  | some fault, _ => (s.finish now (.failed fault), stopping ++ closing)
  | none, .returned () =>
    match s.pacer.status, s.pacer.stats.failure with
    | .failed, some fault => (s.finish now (.failed fault), stopping ++ closing)
    | _, _ =>
      (s.finish now (.returned ()), stopping ++ closing ++ [finishedNotice s.pacer.stats])
  | none, cause => (s.finish now cause, stopping ++ closing)

/-- When the main activity goes on, apart from connections and probes. -/
def mainWake (s : Session) : Wake :=
  match s.stage with
  | .fresh | .connected _ | .winding _ _ => .running
  | .gathering => if s.gate.verdict?.isSome then .running else .idle
  | .dialing none _ => .running
  | .dialing (some due) _ => .waking due
  | .pacing run => if run.isOver then .running else run.wake
  | .done => .idle

def wake (s : Session) : Wake :=
  if s.cancelling || s.inbox.hasWoken then .running else s.mainWake.earlier s.gate.wake

def actMain (now : Time) (s : Session) : Session × List Notice :=
  match s.stage with
  | .fresh => s.begin now
  | .gathering =>
    match s.gate.verdict? with
    | some verdict => s.leaveGate now verdict
    | none => (s, [])
  | .dialing _ result => s.answer now result
  | .connected link => s.listen link
  | .pacing run =>
    if run.isOver then (s.leavePacing run, [])
    else
      let (run, notices) := run.act now
      ({ s with stage := .pacing run, ahead := s.inbox.woken.length }, notices)
  | .winding link cause => s.wind now link cause
  | .done => (s, [])

/-- Closes what was opened for a run that is cut off. -/
def breakOff (s : Session) (now : Time) (run : Run) : Session × List Notice :=
  match run.carrier with
  | .framed link => { s with pacer := run.pacer }.wind now link .cancelled
  | .bare _ _ _ => (s, [])

/-- A cancellation takes effect: it ends the current wait, and what was opened is closed. -/
def cancel (now : Time) (s : Session) : Session × List Notice :=
  let s := { s with cancelling := false }
  match s.stage with
  | .fresh | .dialing _ _ => (s.finish now .cancelled, [])
  | .gathering => ({ s with gate := s.gate.cancel }.finish now .cancelled, [])
  | .connected link | .winding link _ => s.wind now link .cancelled
  | .pacing run => s.breakOff now run
  | .done => (s, [])

/-- Whether the main activity goes on before any connection that was woken: it has not come to a wait.
At the end of a wait the connections woken by then go first. After a burst that took its whole window
there is none, and only those go first that were woken before the end of the burst. -/
def isUnderWay (s : Session) (now : Time) : Bool :=
  match s.stage with
  | .connected _ | .winding _ _ => true
  | .pacing run =>
    match run.phase with
    | .inFlight _ _ flight _ => flight.delay ≤ 0
    | .resting due => run.isLate && s.ahead == 0 && due.any fun due => due ≤ now
    | _ => true
  | _ => false

/-- One step: a cancellation first, then the connections that were woken unless the main activity is
under way, then the main activity if it need not wait, and then what comes earliest. -/
def act (now : Time) (s : Session) : Session × List Notice :=
  if s.cancelling then s.cancel now
  else if s.inbox.hasWoken && !s.isUnderWay now then
    let (inbox, notices) := s.inbox.proceed
    ({ s with inbox, ahead := s.ahead - 1 }, notices)
  else if s.mainWake.earlier s.gate.wake = s.mainWake then s.actMain now
  else
    let (gate, network, notices) := s.gate.act now s.network
    ({ s with gate, network }, notices)

inductive Input where
  | stop
  -- a stop asked for by a signal, which is noted
  | terminate (signal : Nat)
  -- a cancellation of the run
  | cancel
  -- a cancellation of everything
  | interrupt
  | connect (name : String) (peer : Peer) (closeFault : Option Fault)
  | deliver (name : String) (event : Inbox.Event)
  -- note where the session stands
  | observe

/-- A stop request reaches the bursts at once if they have begun, otherwise when they begin. -/
def requestStop (s : Session) : Session :=
  match s.stage with
  | .pacing run => { s with stop := true, stage := .pacing { run with stop := true } }
  | _ => { s with stop := true }

def signalNotice (signal : Nat) : Notice :=
  ⟨.info, .command, "Received signal " ++ toString signal ++
    ", stopping after the current burst..."⟩

/-- Whether a stop request of the same instant is about to end the run. -/
def isStopping (s : Session) : Bool :=
  match s.stage with
  | .pacing run => run.isStopping
  | _ => false

/-- Asks for a cancellation, before which the connections that were woken have their turns. If a
stop request is about to end the run it has no effect. -/
def requestCancel (s : Session) : Session × List Notice :=
  if s.isStopping then (s, [])
  else
    let (inbox, notices) := s.inbox.settle
    ({ s with inbox, cancelling := true }, notices)

def take (now : Time) (input : Input) (s : Session) : Session × List Notice :=
  match input with
  | .stop => (s.requestStop, [])
  | .terminate signal => (s.requestStop, [signalNotice signal])
  | .cancel => s.requestCancel
  | .interrupt => ({ s with cancelling := true }, [])
  | .connect name peer closeFault => ({ s with inbox := s.inbox.accept name peer closeFault }, [])
  | .deliver name event => ({ s with inbox := s.inbox.deliver name event }, [])
  | .observe =>
    ({ s with observations :=
        s.observations.push (now, s.currentPacer.status, s.inbox.running) }, [])

def machine : Machine Session Input := ⟨wake, act, take⟩

def isOver (s : Session) : Bool :=
  s.ended.isSome

/-- A session up to a limit, and whether it came to its end by then. One that did not is cancelled
where it stands, with all that this entails at the same instant. -/
def simulate (s : Session) (inputs : List (Time × Input)) (limit : Time)
    (final : Session → Bool) : Simulation Session Input × Bool :=
  let sim := Simulation.drive machine (s, []) 0 inputs limit final
  if sim.state.isOver then (sim, true)
  else
    (Simulation.run machine sim.now isOver 8 { sim with inputs := [(sim.now, .interrupt)] }, false)

end Session

end BurstLoad
