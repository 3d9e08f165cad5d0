import BurstLoad.Text.Digit

/-!
Dotted IPv4 literals: four decimal numbers up to 255, without leading zeros.
-/

set_option autoImplicit false

namespace BurstLoad.Address

structure Ipv4 where
  a : UInt8
  b : UInt8
  c : UInt8
  d : UInt8
  deriving Repr, DecidableEq

/-- The pieces of a text between the occurrences of a separator, one more than those. -/
def splitOn (sep : Char) : List Char → List (List Char)
  | [] => [[]]
  | c :: cs =>
    if c == sep then [] :: splitOn sep cs
    else match splitOn sep cs with
      | [] => [[c]]
      | piece :: rest => (c :: piece) :: rest

def readOctet? (s : List Char) : Option UInt8 :=
  if s.isEmpty || s.length > 3 || !s.all Text.isAsciiDigit then none
  else if s.length > 1 && s.head? == some '0' then none
  else
    let n := s.foldl (fun n c => 10 * n + (c.toNat - 48)) 0
    if n ≤ 255 then some (UInt8.ofNat n) else none

def Ipv4.read? (s : List Char) : Option Ipv4 :=
  match (splitOn '.' s).map readOctet? with
  | [some a, some b, some c, some d] => some ⟨a, b, c, d⟩
  | _ => none

def printOctet (n : UInt8) : List Char :=
  Nat.toDigits 10 n.toNat

def Ipv4.print (x : Ipv4) : List Char :=
  printOctet x.a ++ '.' :: printOctet x.b ++ '.' :: printOctet x.c ++ '.' :: printOctet x.d

/-- The two groups of sixteen bits that a dotted tail stands for. -/
def Ipv4.groups (x : Ipv4) : List UInt16 :=
  [UInt16.ofNat (256 * x.a.toNat + x.b.toNat), UInt16.ofNat (256 * x.c.toNat + x.d.toNat)]

end BurstLoad.Address
