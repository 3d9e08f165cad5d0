import BurstLoad.Inbox.Visitor
import BurstLoad.Network.Basic

/-!
The listener for messages of the node. Connections share its receiver and nothing else. What happens
to a connection wakes it; those that are woken take their turns in the order in which they were.
Stopping closes the listening socket and all connections that have begun to read.
-/

set_option autoImplicit false

namespace BurstLoad

/-- A listener, bound to a port or not, with every connection it ever accepted. -/
structure Inbox where
  host : String
  port : Int
  limit : Int := Frame.defaultLimit
  receiver : Receiver
  bound : Option Int := none
  visitors : List Visitor := []
  -- the places of the connections that were woken and have not had their turn yet
  woken : List Nat := []

namespace Inbox

def running (i : Inbox) : Bool :=
  i.bound.isSome

/-- The connections that have begun to read and are not closed. -/
def openCount (i : Inbox) : Nat :=
  (i.visitors.filter fun v => v.stage == .reading).length

def hasWoken (i : Inbox) : Bool :=
  !i.woken.isEmpty

def listeningNotice (host : String) (port : Int) : Notice :=
  ⟨.info, .listener, "Listening for node messages on " ++ host ++ ":" ++ toString port⟩

def stoppedNotice : Notice := ⟨.debug, .listener, "Listener stopped"⟩

def start (i : Inbox) (net : Network) : Inbox × Network × Option Fault × List Notice :=
  match net.bind ⟨i.host, i.port⟩ with
  | (net, .error fault) => (i, net, some fault, [])
  | (net, .ok port) => ({ i with bound := some port }, net, none, [listeningNotice i.host port])

def closeReading : List Visitor → List Visitor × List Notice
  | [] => ([], [])
  | v :: rest =>
    let (rest, notices) := closeReading rest
    if v.stage = .reading then
      let (v, more) := v.close
      (v :: rest, more ++ notices)
    else (v :: rest, notices)

/-- Stops the listener; one that is not running has nothing to stop. -/
def stop (i : Inbox) : Inbox × List Notice :=
  match i.bound with
  | none => (i, [])
  | some _ =>
    let (visitors, notices) := closeReading i.visitors
    ({ i with bound := none, visitors }, notices ++ [stoppedNotice])

inductive Event where
  | feed (chunk : Bytes)
  | close
  | reset (fault : Fault)

def Event.change : Event → Frame.Reader → Frame.Reader
  | .feed chunk, r => r.feed chunk
  | .close, r => r.close
  | .reset fault, r => r.fail fault

/-- Whether an event is more than no bytes. -/
def Event.rouses : Event → Bool
  | .feed chunk => !chunk.isEmpty
  | .close | .reset _ => true

/-- The connection under a name that can still be reached, with its place. -/
def reached? (i : Inbox) (name : String) : Option (Nat × Visitor) :=
  match i.visitors.zipIdx.reverse.find? fun p => p.1.name == name with
  | some (v, place) => if v.stage = .closed then none else some (place, v)
  | none => none

/-- Accepts a connection, whose first turn is still to come. -/
def accept (i : Inbox) (name : String) (peer : Peer) (closeFault : Option Fault) : Inbox :=
  if i.running then
    { i with
      visitors := i.visitors ++ [{ name, peer, closeFault, reader := { limit := i.limit } }]
      woken := i.woken ++ [i.visitors.length] }
  else i

/-- An event on the connection under a name, which wakes it if it waits; on a closed one nothing
happens. -/
def deliver (i : Inbox) (name : String) (event : Event) : Inbox :=
  match i.reached? name with
  | none => i
  | some (place, v) =>
    { i with
      visitors := i.visitors.set place { v with reader := event.change v.reader }
      woken := if v.reader.waits && event.rouses then i.woken ++ [place] else i.woken }

/-- The turn of the first connection that was woken. -/
def proceed (i : Inbox) : Inbox × List Notice :=
  match i.woken with
  | [] => (i, [])
  | place :: woken =>
    match i.visitors[place]? with
    | none => ({ i with woken }, [])
    | some v =>
      let (receiver, v, notices) := v.proceed i.receiver
      ({ i with receiver, visitors := i.visitors.set place v, woken }, notices)

/-- The turns of so many connections that were woken. -/
def proceedTimes : Nat → Inbox → Inbox × List Notice
  | 0, i => (i, [])
  | turns + 1, i =>
    let (i, notices) := i.proceed
    let (i, more) := proceedTimes turns i
    (i, notices ++ more)

def settle (i : Inbox) : Inbox × List Notice :=
  proceedTimes i.woken.length i

end Inbox

end BurstLoad
