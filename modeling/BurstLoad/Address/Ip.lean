import BurstLoad.Address.Ipv6

/-!
IP literals of both versions.
-/

set_option autoImplicit false

namespace BurstLoad.Address

inductive Ip where
  | v4 (address : Ipv4)
  | v6 (address : Ipv6)
  deriving DecidableEq

def Ip.read? (s : List Char) : Option Ip :=
  match Ipv4.read? s with
  | some x => some (.v4 x)
  | none => (Ipv6.read? s).map .v6

def Ip.print : Ip → List Char
  | .v4 x => x.print
  | .v6 x => x.print

end BurstLoad.Address
