import BurstLoad.Decimal.Binary

/-!
The shortest decimal that reads back as a given binary fraction. A number `m · 2^q` is what every
real in an interval around it rounds to; of the decimals with the fewest digits in that interval
the nearest one is chosen, and of two equally near the even one.
-/

set_option autoImplicit false

namespace BurstLoad

structure Decimal where
  digits : Nat
  exponent : Int
  deriving Repr, DecidableEq

namespace Decimal

structure Fraction where
  num : Nat
  den : Nat

def Fraction.dyadic (n : Nat) (q : Int) : Fraction :=
  if q ≥ 0 then ⟨n * Nat.pow 2 q.toNat, 1⟩ else ⟨n, Nat.pow 2 (-q).toNat⟩

def Fraction.scaleDown (x : Fraction) (p : Int) : Fraction :=
  if p ≥ 0 then ⟨x.num, x.den * Nat.pow 10 p.toNat⟩ else ⟨x.num * Nat.pow 10 (-p).toNat, x.den⟩

/-- The reals that round to a value: from `low` to `high`, the ends included if `closed`. -/
structure Neighbourhood where
  low : Fraction
  value : Fraction
  high : Fraction
  closed : Bool

/-- What rounds to `m · 2^q`. Below a power of two the neighbours lie half as far apart, except
at the `least` exponent. -/
def Neighbourhood.ofDyadic (m : Nat) (q : Int) (least : Bool) : Neighbourhood where
  low := if m == Binary.leading && !least then .dyadic (4 * m - 1) (q - 2) else .dyadic (2 * m - 1) (q - 1)
  value := .dyadic m q
  high := .dyadic (2 * m + 1) (q - 1)
  closed := m % 2 == 0

/-- Whether the multiple `n` of `10^p` lies in the neighbourhood. -/
def Neighbourhood.contains (v : Neighbourhood) (p : Int) (n : Nat) : Bool :=
  let low := v.low.scaleDown p
  let high := v.high.scaleDown p
  if v.closed then low.num ≤ n * low.den && n * high.den ≤ high.num
  else low.num < n * low.den && n * high.den < high.num

/-- The multiple of `10^p` in the neighbourhood that is nearest to its value, if any. -/
def Neighbourhood.nearest? (v : Neighbourhood) (p : Int) : Option Nat :=
  let x := v.value.scaleDown p
  let below := x.num / x.den
  let rest := x.num % x.den
  match v.contains p below && below != 0, v.contains p (below + 1) with
  | false, false => none
  | true, false => some below
  | false, true => some (below + 1)
  | true, true =>
    if 2 * rest < x.den then some below
    else if 2 * rest > x.den then some (below + 1)
    else some (if below % 2 == 0 then below else below + 1)

/-- The greatest `p` with `10^p ≤ value`, searched downwards. -/
def Neighbourhood.magnitude (v : Neighbourhood) : Nat → Int → Int
  | 0, p => p
  | fuel + 1, p =>
    let x := v.value.scaleDown p
    if x.den ≤ x.num then p else v.magnitude fuel (p - 1)

/-- The shortest decimal of the neighbourhood with at least `17 - fuel` digits, the highest of
which stands at `10^top`. -/
def Neighbourhood.shortestFrom (v : Neighbourhood) (top : Int) : Nat → Nat → Decimal
  | 0, count => ⟨(v.nearest? (top - count + 1)).getD 0, top - count + 1⟩
  | fuel + 1, count =>
    match v.nearest? (top - count + 1) with
    | some n => ⟨n, top - count + 1⟩
    | none => v.shortestFrom top fuel (count + 1)

/-- A power of ten not below the value, and close to it: a binary digit is 0.30103 decimal ones. -/
def Neighbourhood.magnitudeBound (v : Neighbourhood) : Int :=
  ((v.value.num.log2 : Int) - v.value.den.log2 + 1) * 30103 / 100000 + 1

def Neighbourhood.shortest (v : Neighbourhood) : Decimal :=
  v.shortestFrom (v.magnitude 5 v.magnitudeBound) 17 1

end Decimal

end BurstLoad
