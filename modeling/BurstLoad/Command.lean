import BurstLoad.CommandLine.Options
import BurstLoad.Log.Setup
import BurstLoad.Session.Basic
import BurstLoad.Settings.File

/-!
The command: set up the log, settle the configuration from a file and the options over it, and run
one session. A configuration that is rejected and a session that fails are reported in the log and
on the error stream; an interrupted session is only noted.
-/

set_option autoImplicit false

namespace BurstLoad

namespace CommandLine.Options

/-- The entries that options lay over those of a file; what was not given is null. -/
def overrides (o : Options) : List (String × Value) :=
  let flag (b : Bool) : Value := if b then .bool true else .null
  [("target", o.target.elim .null .text), ("size", o.size.value), ("rate", o.rate.value),
    ("nodes", o.nodes.elim .null fun nodes => .list (nodes.map .text)),
    ("port", o.port.value), ("local", flag o.localOnly), ("honest", flag o.honest)]

def logSetup (o : Options) : Log.Setup where
  level := o.logLevel.elim (.list []) fun level => .text level.name
  file := o.logFile.value
  json := o.jsonLogs

end CommandLine.Options

namespace Command

inductive SignalHandler where
  -- what was set before the command began, told apart by a number
  | foreign (number : Nat)
  -- it asks the session to stop
  | stopSession
  deriving Repr, DecidableEq

structure Scene where
  files : Files := {}
  -- how the configuration file is read
  reader : Settings.Reader := Settings.yaml
  network : Network
  -- the counters that a generator starts from
  counters : Except Payload.StartFailure Payload.Counters
  inputs : List (Time × Session.Input) := []
  limit : Time
  -- whether lines go to a terminal
  terminal : Bool := false
  handler : SignalHandler := .foreign 0

inductive Ending where
  | exit (code : Nat)
  -- the session goes on beyond the limit
  | unfinished
  -- an error that the command does not handle
  | escaped (fault : Fault)
  | unsettled (failure : Settings.Failure)
  -- the counters could not be drawn
  | undrawn (failure : Payload.StartFailure)
  | unlogged (failure : Log.Failure)

structure Report where
  ending : Ending
  -- what it wrote to the error stream
  complaint : String := ""
  journal : Journal := #[]
  session : Option Session := none
  logging : Log.Logging
  -- the files before any line of the log is written
  files : Files
  -- what a request to terminate does once the command is over
  handler : SignalHandler

def succeeded : Nat := 0
def failed : Nat := 1
def misused : Nat := 2
def interrupted : Nat := 130

def problemNotice (problem : String) : Notice :=
  ⟨.error, .command, problem⟩

def complaintOf (problem : String) : String :=
  "Error: " ++ problem ++ "\n"

def interruptedNotice : Notice := ⟨.info, .command, "Interrupted"⟩

def failureText (fault : Fault) : String :=
  "Failed to submit transactions: " ++ fault.text

/-- The entries of the configuration file, if one is asked for. -/
def fileEntries (o : CommandLine.Options) (reader : Settings.Reader) (fs : Files) :
    Except Settings.Failure (Settings.Entries × List Notice) :=
  match o.config.word? with
  | some path => Settings.load reader fs path
  | none => .ok ([], [])

/-- The settled configuration, and what is noted on the way to it. -/
def settings (o : CommandLine.Options) (reader : Settings.Reader) (fs : Files) :
    Except Settings.Failure Settings × List Notice :=
  match fileEntries o reader fs with
  | .error failure => (.error failure, [])
  | .ok (entries, notices) => (Settings.build entries o.overrides, notices)

/-- How a command ends with its session, and what it notes and complains of. -/
def conclude : Outcome Unit → Ending × List Notice × String
  | .returned () => (.exit succeeded, [], "")
  | .cancelled => (.exit interrupted, [interruptedNotice], "")
  | .failed fault =>
    if fault.isOwn || fault.isNetwork then
      (.exit failed, [problemNotice (failureText fault)], complaintOf (failureText fault))
    else (.escaped fault, [], "")

/-- The report of what is done while a request to terminate asks the session to stop. Afterwards it
does what it did before. -/
def Report.stoppable (r : Report) (body : Report → Report) : Report :=
  { body { r with handler := .stopSession } with handler := r.handler }

/-- The report with a session that was run, up to a limit. -/
def Report.withSession (r : Report) (session : Session) (scene : Scene) : Report :=
  let (sim, isDone) := session.simulate scene.inputs scene.limit Session.isOver
  let r := { r with session := some sim.state, journal := r.journal ++ sim.journal }
  match isDone, sim.state.ended with
  | true, some (time, outcome) =>
    let (ending, notices, complaint) := conclude outcome
    { r with ending, complaint, journal := r.journal.record time notices }
  | _, _ => { r with ending := .unfinished }

/-- The report with a configuration that failed to settle, or with its session. -/
def Report.withSettings (r : Report) (settled : Except Settings.Failure Settings)
    (scene : Scene) : Report :=
  match settled with
  | .error (.rejected cause) =>
    { r with
        ending := .exit failed
        complaint := complaintOf cause.message
        journal := r.journal.record 0
          [problemNotice ("Invalid configuration: " ++ cause.message)] }
  | .error failure => { r with ending := .unsettled failure }
  | .ok s =>
    match scene.counters with
    | .error failure => { r with ending := .undrawn failure }
    | .ok counters =>
      match Session.ofSettings? s counters { verbose := s.honest } scene.network with
      | .error failure => { r with ending := .unsettled failure }
      | .ok session => r.stoppable fun r => r.withSession session scene

def run (o : CommandLine.Options) (scene : Scene) : Report :=
  match ({} : Log.Logging).configure o.logSetup scene.terminal scene.files with
  | (logging, files, some failure) =>
    { ending := .unlogged failure, logging, files, handler := scene.handler }
  | (logging, files, none) =>
    let (settled, notices) := settings o scene.reader files
    let r : Report := {
      ending := .exit succeeded
      journal := Journal.record #[] 0 notices
      logging
      files
      handler := scene.handler }
    r.withSettings settled scene

/-- What the console shows of the journal of a command, and the files with its lines in them. -/
def Report.written (r : Report) : String × Files :=
  r.logging.emitAll r.files r.journal.toList

end Command

end BurstLoad
