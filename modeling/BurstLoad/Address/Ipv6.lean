import BurstLoad.Address.Ipv4

/-!
IPv6 literals: eight groups of one to four hexadecimal digits, of which `::` stands for one or
more zero groups once; the last two groups may be a dotted IPv4 literal, and `%` starts a scope.
Printing drops leading zeros, uses lower case and compresses the first longest run of two or more
zero groups.
-/

set_option autoImplicit false

namespace BurstLoad.Address

/-- An IPv6 address: eight groups, and a scope as it was written. -/
structure Ipv6 where
  groups : List UInt16
  scope : Option (List Char)
  length_groups : groups.length = 8
  deriving DecidableEq

def readGroup? (s : List Char) : Option UInt16 :=
  if s.isEmpty || s.length > 4 then none
  else (s.mapM Text.hexValue?).map fun ds => UInt16.ofNat (ds.foldl (fun n d => 16 * n + d) 0)

/-- Reads groups; with `tail` the last one may be a dotted literal and then counts as two. -/
def readGroups? (tail : Bool) : List (List Char) → Option (List UInt16)
  | [] => some []
  | [s] =>
    if tail && s.contains '.' then (Ipv4.read? s).map Ipv4.groups
    else (readGroup? s).map ([·])
  | s :: rest => do
    let g ← readGroup? s
    let gs ← readGroups? tail rest
    pure (g :: gs)

/-- Reads the groups of one side of `::`; the side may be empty. -/
def readSide? (tail : Bool) (s : List Char) : Option (List UInt16) :=
  if s.isEmpty then some [] else readGroups? tail (splitOn ':' s)

/-- Cuts a text at the first `::`. -/
def cutAtGap? : List Char → Option (List Char × List Char)
  | ':' :: ':' :: rest => some ([], rest)
  | c :: rest => (cutAtGap? rest).map fun (l, r) => (c :: l, r)
  | [] => none

/-- Reads the groups of a literal without its scope. -/
def readAddress? (s : List Char) : Option (List UInt16) :=
  match cutAtGap? s with
  | none => do
    let gs ← readGroups? true (splitOn ':' s)
    if gs.length == 8 then some gs else none
  | some (l, r) => do
    let high ← readSide? false l
    let low ← readSide? true r
    if high.length + low.length ≤ 7 then
      some (high ++ List.replicate (8 - high.length - low.length) 0 ++ low)
    else none

/-- The scope after `%`: not empty, and without a second `%` or a slash. -/
def readScope? : List Char → Option (Option (List Char))
  | [] => some none
  | _ :: scope =>
    if scope.isEmpty || scope.contains '%' || scope.contains '/' then none else some (some scope)

def Ipv6.read? (s : List Char) : Option Ipv6 := do
  let scope ← readScope? (s.dropWhile (· != '%'))
  let groups ← readAddress? (s.takeWhile (· != '%'))
  if h : groups.length = 8 then some ⟨groups, scope, h⟩ else none

def zerosAhead (gs : List UInt16) : Nat :=
  (gs.takeWhile (· == 0)).length

/-- The place and length of the first longest run of zero groups. -/
def longestZeros : List UInt16 → Nat × Nat
  | [] => (0, 0)
  | g :: gs =>
    let here := zerosAhead (g :: gs)
    let (place, n) := longestZeros gs
    if here ≥ n then (0, here) else (place + 1, n)

def joinGroups : List UInt16 → List Char
  | [] => []
  | [g] => Text.hexDigits g.toNat
  | g :: gs => Text.hexDigits g.toNat ++ ':' :: joinGroups gs

def printGroups (gs : List UInt16) : List Char :=
  let (start, n) := longestZeros gs
  if n > 1 then joinGroups (gs.take start) ++ ':' :: ':' :: joinGroups (gs.drop (start + n))
  else joinGroups gs

/-- The canonical text of the address, its scope kept as written. -/
def Ipv6.print (x : Ipv6) : List Char :=
  printGroups x.groups ++ match x.scope with
    | none => []
    | some scope => '%' :: scope

end BurstLoad.Address
