import BurstLoad.Link

/-!
What a pacer sends on: a framed connection, or a bare carrier on which each send takes its time and
then fails or goes through as a whole.
-/

set_option autoImplicit false

namespace BurstLoad

inductive Carrier where
  | bare (plan : Nat → Network.WritePlan) (attempts : Nat) (sent : Array (Time × Bytes))
  | framed (link : Link)

namespace Carrier

def launch (c : Carrier) (now : Time) (payload : Bytes) : Carrier × Flight :=
  match c with
  | .bare plan attempts sent =>
    let p := plan attempts
    (.bare plan (attempts + 1) sent, ⟨payload, p.delay, p.fault⟩)
  | .framed link =>
    let (link, flight) := link.launch now payload
    (.framed link, flight)

def land (c : Carrier) (now : Time) (flight : Flight) : Carrier × Option Fault :=
  match c with
  | .bare plan attempts sent =>
    match flight.fault with
    | some fault => (c, some fault)
    | none => (.bare plan attempts (sent.push (now, flight.payload)), none)
  | .framed link =>
    let (link, fault) := link.land flight
    (.framed link, fault)

def sent : Carrier → Array (Time × Bytes)
  | .bare _ _ sent => sent
  | .framed link => link.wire.written

end Carrier

end BurstLoad
