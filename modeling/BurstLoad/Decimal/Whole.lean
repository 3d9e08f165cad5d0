import BurstLoad.Decimal.Binary

/-!
Whole numbers as floating-point numbers: the nearest one, of two the even one, and none for a
number beyond the range.
-/

set_option autoImplicit false

namespace BurstLoad.Decimal

/-- The nearest multiple of a power of two that has at most 53 binary digits, of two the even
one. -/
def roundTo53 (n : Nat) : Nat :=
  let shift := n.log2 + 1 - 53
  let unit := Nat.pow 2 shift
  let below := n / unit
  let rest := n % unit
  let up := 2 * rest > unit || (2 * rest == unit && below % 2 == 1)
  (if up then below + 1 else below) * unit

/-- The floating-point number nearest to a whole number. -/
def ofInt? (n : Int) : Option Float :=
  let m := roundTo53 n.natAbs
  if m < Nat.pow 2 1024 then some (Binary.ofWhole (n < 0) m).toFloat else none

def dyadic? (x : Float) : Option (Int × Int) :=
  let b := Binary.ofFloat x
  if b.isFinite then some (if b.negative then -b.significand else b.significand, b.power)
  else none

/-- The greatest whole number that is not above `m · 2^q`. -/
def floorDyadic (m q : Int) : Int :=
  let unit : Int := (Nat.pow 2 q.natAbs : Nat)
  if q ≥ 0 then m * unit else m / unit

/-- The greatest whole number that is not above a finite floating-point number. -/
def floor? (x : Float) : Option Int :=
  (dyadic? x).map fun (m, q) => floorDyadic m q

/-- The least whole number that is not below a finite floating-point number. -/
def ceil? (x : Float) : Option Int :=
  (dyadic? x).map fun (m, q) => -floorDyadic (-m) q

/-- A finite floating-point number without its fraction. -/
def truncate? (x : Float) : Option Int :=
  (dyadic? x).map fun (m, q) => if m < 0 then -floorDyadic (-m) q else floorDyadic m q

/-- The whole number nearest to a finite floating-point number, of two the even one. -/
def roundEven? (x : Float) : Option Int :=
  (dyadic? x).map fun (m, q) =>
    let below := floorDyadic (2 * m) q
    if below % 2 == 0 then below / 2
    else if floorDyadic m q % 2 == 0 && floorDyadic (-(2 * m)) q == -below then below / 2
    else below / 2 + 1

end BurstLoad.Decimal
