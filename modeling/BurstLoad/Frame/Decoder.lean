import BurstLoad.Frame.Codec

/-!
Decoding of frames that arrive in chunks. The decoder keeps the bytes of the frame that is not yet
complete; at a length beyond the limit it stops for good, with that length at the head of what it
keeps.
-/

set_option autoImplicit false

namespace BurstLoad.Frame

structure Decoder where
  limit : Int := defaultLimit
  buffer : Bytes := []
  deriving Repr, DecidableEq

/-- The decoder after a chunk, and the frames that the chunk completes. A chunk that leads to a
length beyond the limit gives no frames. -/
def Decoder.feed (d : Decoder) (chunk : Bytes) : Decoder × Except Error (List Bytes) :=
  let parts := split d.limit (d.buffer ++ chunk)
  ({ d with buffer := parts.rest },
    match parts.oversized with
    | none => .ok parts.frames
    | some length => .error (.tooLarge length d.limit))

/-- The number of bytes kept for a frame that is not complete. -/
def Decoder.pending (d : Decoder) : Nat :=
  d.buffer.length

end BurstLoad.Frame
