/-!
Floating-point numbers in their binary form. A finite one is `m · 2^q` with a significand `m` of at
most 53 binary digits, and its sign.
-/

set_option autoImplicit false

namespace BurstLoad.Decimal

/-- The fields of a floating-point number of 64 bits. -/
structure Binary where
  negative : Bool
  exponent : Nat
  fraction : Nat
  deriving Repr, DecidableEq

namespace Binary

/-- The digit in front of the fraction, which is not stored. -/
def leading : Nat := Nat.pow 2 52

/-- The exponent of what is not finite. -/
def beyond : Nat := 2047

def ofFloat (x : Float) : Binary :=
  let bits := x.toBits.toNat
  { negative := bits / (2048 * leading) == 1
    exponent := bits / leading % 2048
    fraction := bits % leading }

/-- The floating-point number with these fields. -/
def toFloat (b : Binary) : Float :=
  let sign := if b.negative then 2048 * leading else 0
  .ofBits (.ofNat (sign + b.exponent * leading + b.fraction))

/-- A whole number of at most 53 binary digits before the zeros at its end. -/
def ofWhole (negative : Bool) (n : Nat) : Binary :=
  if n == 0 then { negative, exponent := 0, fraction := 0 }
  else {
    negative
    exponent := n.log2 + 1023
    fraction := n * leading / Nat.pow 2 n.log2 - leading }

/-- Whether the number is neither infinite nor no number at all. -/
def isFinite (b : Binary) : Bool :=
  b.exponent != beyond

/-- The significand of a finite number; the smallest ones lack the leading digit. -/
def significand (b : Binary) : Nat :=
  if b.exponent == 0 then b.fraction else leading + b.fraction

/-- The power of two that a significand is multiplied by. -/
def power (b : Binary) : Int :=
  if b.exponent == 0 then -1074 else (b.exponent : Int) - 1075

end Binary

end BurstLoad.Decimal
