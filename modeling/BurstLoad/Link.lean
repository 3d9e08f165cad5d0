import BurstLoad.Frame.Reader
import BurstLoad.Network.Basic

/-!
A connection that carries frames. A send writes one whole frame and waits until it has drained; a
network error on the way is reported as a failure of the connection, and the counters grow only
with sends that succeed.
-/

set_option autoImplicit false

namespace BurstLoad

structure Link where
  wire : Network.Wire
  reader : Frame.Reader := {}
  framesSent : Nat := 0
  bytesSent : Nat := 0

/-- A send under way: when it comes to its end, and how. -/
structure Flight where
  payload : Bytes
  delay : Time
  fault : Option Fault

namespace Link

def launch (l : Link) (now : Time) (payload : Bytes) : Link × Flight :=
  match Frame.encode Frame.maxLength payload with
  | .error e => (l, ⟨payload, 0, some (.frame e)⟩)
  | .ok frame =>
    match l.wire.write now frame with
    | (wire, .error fault) => ({ l with wire }, ⟨payload, 0, some fault.onConnection⟩)
    | (wire, .ok d) => ({ l with wire }, ⟨payload, d.delay, d.fault.map Fault.onConnection⟩)

def land (l : Link) (flight : Flight) : Link × Option Fault :=
  match flight.fault with
  | some fault => (l, some fault)
  | none =>
    ({ l with
        framesSent := l.framesSent + 1
        bytesSent := l.bytesSent + Frame.headerSize + flight.payload.length }, none)

/-- Reads one frame, with errors as they come. -/
def read (l : Link) : Link × Frame.Reading :=
  let (reader, reading) := l.reader.read
  ({ l with reader }, reading)

/-- Reads one frame; a network error is a failure of the connection. -/
def receive (l : Link) : Link × Frame.Reading :=
  match l.read with
  | (l, .failed fault) => (l, .failed fault.onConnection)
  | (l, reading) => (l, reading)

/-- Closes the connection; a network error on the way is only noted. -/
def close (l : Link) : Link × Option Fault × List Notice :=
  match l.wire.close with
  | (wire, none) => ({ l with wire }, none, [])
  | (wire, some fault) =>
    if fault.isNetwork then
      ({ l with wire }, none, [⟨.debug, .framing, "Error while closing connection: " ++ fault.text⟩])
    else ({ l with wire }, some fault, [])

def connectedNotice (e : Endpoint) : Notice :=
  ⟨.debug, .framing, "Connected to " ++ e.print⟩

def connectFault (e : Endpoint) (fault : Fault) : Fault :=
  if fault.isNetwork then .connect e.print (some fault.text) else fault

end Link

end BurstLoad
