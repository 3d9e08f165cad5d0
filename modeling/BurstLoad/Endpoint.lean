import BurstLoad.Address.Ip
import BurstLoad.Text.Numeral

/-!
Socket addresses: an IP literal and a port, written `a.b.c.d:port` or `[v6]:port`. Reading gives
the canonical text of the address, whatever spelling was used.
-/

set_option autoImplicit false

namespace BurstLoad

structure Endpoint where
  host : String
  port : Int
  deriving Repr, DecidableEq, Inhabited

namespace Endpoint

/-- The text of a socket address; a host with a colon stands in brackets. -/
def print (e : Endpoint) : String :=
  if e.host.toList.contains ':' then "[" ++ e.host ++ "]:" ++ toString e.port
  else e.host ++ ":" ++ toString e.port

/-- Cuts a text at the first `]:`. -/
def cutAtBracket? : List Char → Option (List Char × List Char)
  | ']' :: ':' :: rest => some ([], rest)
  | c :: rest => (cutAtBracket? rest).map fun (l, r) => (c :: l, r)
  | [] => none

/-- Cuts a text at its only colon. -/
def cutAtColon? (s : List Char) : Option (List Char × List Char) :=
  match s.dropWhile (· != ':') with
  | _ :: port => if port.contains ':' then none else some (s.takeWhile (· != ':'), port)
  | [] => none

/-- The host part and the port part of a trimmed text. -/
def parts? : List Char → Option (List Char × List Char)
  | '[' :: rest => cutAtBracket? rest
  | s => cutAtColon? s

def maxPort : Nat := 65535

def readPort? (s : List Char) : Option Nat :=
  (Text.readNatural? s).filter (· ≤ maxPort)

def read? (s : List Char) : Option Endpoint := do
  let (host, port) ← parts? (Text.trim s)
  let address ← Address.Ip.read? host
  let n ← readPort? port
  pure ⟨String.ofList address.print, n⟩

end Endpoint

end BurstLoad
