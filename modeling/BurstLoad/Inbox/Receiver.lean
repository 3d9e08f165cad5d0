import BurstLoad.Fault
import BurstLoad.Payload.Generator
import BurstLoad.Value

/-!
What happens to the frames that nodes send. A verbose receiver logs each one: a sample with the
number by which it is paired with its sending, a filler, or a frame too short for a header. A
silent one only counts.
-/

set_option autoImplicit false

namespace BurstLoad

/-- The name of the other side of a connection, if it has one. -/
abbrev Peer := Option (List Value)

def Peer.display : Peer → String
  | none => "None"
  | some parts => Value.displayTuple parts

/-- A receiver and its counters. `faults` are errors with which single frames are answered. -/
structure Receiver where
  verbose : Bool
  faults : Bytes → Option Fault := fun _ => none
  frames : Nat := 0
  bytes : Nat := 0

namespace Receiver

def noticeOf (frame : Bytes) (peer : Peer) : Notice :=
  match Payload.header? frame with
  | none => ⟨.info, .listener,
      "Received frame of " ++ toString frame.length ++ " B from " ++ peer.display⟩
  | some (tag, discriminator) =>
    if tag = Payload.fillerTag then
      ⟨.debug, .listener,
        "Received filler transaction " ++ toString discriminator ++ " from " ++ peer.display⟩
    else
      ⟨.info, .listener,
        "Received sample transaction " ++ toString (Payload.sampleId tag discriminator) ++
        ", (client " ++ toString discriminator ++ ", count " ++ toString tag ++ ", " ++
        toString frame.length ++ " B)"⟩

/-- Takes a frame: it is counted and noted, and may then be answered with an error. -/
def dispatch (r : Receiver) (frame : Bytes) (peer : Peer) :
    Receiver × List Notice × Option Fault :=
  ({ r with frames := r.frames + 1, bytes := r.bytes + frame.length },
    if r.verbose then [noticeOf frame peer] else [], r.faults frame)

end Receiver

end BurstLoad
