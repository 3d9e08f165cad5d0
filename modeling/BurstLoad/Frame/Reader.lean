import BurstLoad.Fault
import BurstLoad.Frame.Codec

/-!
Reading frames from a stream as its bytes arrive. A read takes the length as soon as its four bytes
are there and then waits for the body; it ends where the stream ends at a frame boundary and fails
where the stream ends inside a frame. A length beyond the limit is consumed, the body is not.

A waiting read is roused by the first thing that happens to the stream. Roused by bytes or by the
end it goes on with the part that it waits for, even if the stream breaks before it does so; a
break is noticed where a part begins, or if it is what rouses the read.
-/

set_option autoImplicit false

namespace BurstLoad.Frame

inductive Part where
  | header
  | body (length : Nat)
  deriving Repr, DecidableEq

structure Reader where
  limit : Int := defaultLimit
  buffer : Bytes := []
  -- the other side has closed the stream
  closed : Bool := false
  -- what broke the stream
  broken : Option Fault := none
  -- the part that a read waits for
  awaited : Option Part := none
  -- the waiting read was roused and has not gone on yet
  roused : Bool := false

inductive Reading where
  -- more bytes are needed
  | pending
  | frame (body : Bytes)
  -- the stream has ended after a whole frame
  | finished
  | failed (fault : Fault)

namespace Reader

/-- Whether a read waits that nothing has roused. -/
def waits (r : Reader) : Bool :=
  r.awaited.isSome && !r.roused

def feed (r : Reader) (chunk : Bytes) : Reader :=
  if chunk.isEmpty then r
  else { r with buffer := r.buffer ++ chunk, roused := r.awaited.isSome }

def close (r : Reader) : Reader :=
  { r with closed := true, roused := r.awaited.isSome }

/-- The stream breaks; what is buffered can no longer be read. -/
def fail (r : Reader) (fault : Fault) : Reader :=
  { r with broken := some fault, awaited := if r.roused then r.awaited else none }

def readBody (r : Reader) (length : Nat) : Reader × Reading :=
  if r.buffer.length < length then
    if r.closed then
      ({ r with buffer := [], awaited := none },
        .failed (.frame (.bodyCut r.buffer.length length)))
    else ({ r with awaited := some (.body length) }, .pending)
  else ({ r with buffer := r.buffer.drop length, awaited := none },
    .frame (r.buffer.take length))

/-- Begins to read a body, unless the stream has broken. -/
def beginBody (r : Reader) (length : Nat) : Reader × Reading :=
  match r.broken with
  | some fault => ({ r with awaited := none }, .failed fault)
  | none => r.readBody length

/-- Reads a length, and the body if the length is allowed. -/
def readHeader (r : Reader) : Reader × Reading :=
  match Bytes.takeWord? r.buffer with
  | some (length, rest) =>
    if length > r.limit then
      ({ r with buffer := rest, awaited := none }, .failed (.frame (.tooLarge length r.limit)))
    else { r with buffer := rest }.beginBody length
  | none =>
    if r.closed then
      if r.buffer.isEmpty then ({ r with awaited := none }, .finished)
      else ({ r with buffer := [], awaited := none },
        .failed (.frame (.headerCut r.buffer.length)))
    else ({ r with awaited := some .header }, .pending)

/-- Goes on with the part that a read waits for, or begins with a length unless the stream has
broken. -/
def resume (r : Reader) : Reader × Reading :=
  match r.awaited, r.broken with
  | some (.body length), _ => r.readBody length
  | some .header, _ => r.readHeader
  | none, some fault => (r, .failed fault)
  | none, none => r.readHeader

/-- Reads one frame, or goes on with the read that waits. -/
def read (r : Reader) : Reader × Reading :=
  { r with roused := false }.resume

end Reader

end BurstLoad.Frame
