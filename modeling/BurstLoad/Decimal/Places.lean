import BurstLoad.Decimal.Shortest
import BurstLoad.Decimal.Whole

/-!
Numbers with a given number of places or digits. The value is rounded once and exactly; half a
unit goes to the even neighbour.
-/

set_option autoImplicit false

namespace BurstLoad.Decimal

/-- The whole number nearest to a fraction, of two the even one. -/
def Fraction.round (x : Fraction) : Nat :=
  let below := x.num / x.den
  let rest := x.num % x.den
  if 2 * rest > x.den || (2 * rest == x.den && below % 2 == 1) then below + 1 else below

/-- The digits of a whole number, with a point in front of the last `places` of them; the point
stands at the end of a whole number only if asked for. -/
def placePoint (keepPoint : Bool) (places n : Nat) : List Char :=
  let ds := Nat.toDigits 10 n
  let ds := List.replicate (places + 1 - ds.length) '0' ++ ds
  let cut := ds.length - places
  if places == 0 && !keepPoint then ds else ds.take cut ++ '.' :: ds.drop cut

/-- A fraction with a number of places after the point. -/
def Fraction.fixed (x : Fraction) (keepPoint : Bool) (places : Nat) : List Char :=
  placePoint keepPoint places (x.scaleDown (-places)).round

/-- The exponent of the highest digit of a positive fraction, searched downwards. -/
def Fraction.topExponent (x : Fraction) : Nat → Int → Int
  | 0, e => e
  | fuel + 1, e =>
    let y := x.scaleDown e
    if y.den ≤ y.num then e else x.topExponent fuel (e - 1)

/-- The highest digits of a fraction, `more` after the first, and the exponent of the first. -/
def Fraction.leading (x : Fraction) (more : Nat) : Nat × Int :=
  if x.num == 0 then (0, 0)
  else
    let bound := ((x.num.log2 : Int) - x.den.log2 + 1) * 30103 / 100000 + 1
    let e := x.topExponent 5 bound
    let n := (x.scaleDown (e - more)).round
    if n ≥ Nat.pow 10 (more + 1) then (n / 10, e + 1) else (n, e)

def exponentText (e : Int) : List Char :=
  let ds := Nat.toDigits 10 e.natAbs
  'e' :: (if e < 0 then '-' else '+') :: List.replicate (2 - ds.length) '0' ++ ds

/-- A fraction with one digit before the point and an exponent. -/
def Fraction.scientific (x : Fraction) (keepPoint : Bool) (places : Nat) : List Char :=
  let (n, e) := x.leading places
  placePoint keepPoint places n ++ exponentText e

/-- A decimal without the zeros at its end, nor a point that is left last. -/
def dropZeros (ds : List Char) : List Char :=
  if ds.contains '.' then
    let kept := ds.reverse.dropWhile (· == '0')
    (match kept with
      | '.' :: rest => rest
      | rest => rest).reverse
  else ds

/-- A fraction with a number of digits, positional from `0.0001` up to as many digits. Zeros at
the end are kept only if asked for. -/
def Fraction.general (x : Fraction) (keepZeros : Bool) (digits : Nat) : List Char :=
  let digits := max digits 1
  let (n, e) := x.leading (digits - 1)
  if -4 ≤ e && e < digits then
    let ds := x.fixed keepZeros ((digits : Int) - 1 - e).toNat
    if keepZeros then ds else dropZeros ds
  else
    let ds := placePoint keepZeros (digits - 1) n
    (if keepZeros then ds else dropZeros ds) ++ exponentText e

/-- The floating-point number nearest to `digits · 10^exponent`. -/
def read (digits : Nat) (exponent : Int) : Float :=
  let size : Int := (Nat.toDigits 10 digits).length
  if digits == 0 || exponent + size < -400 then 0.0
  else if exponent + size > 400 then 1.0 / 0.0
  else if exponent ≥ 0 then Float.ofScientific (digits * Nat.pow 10 exponent.toNat) false 0
  else Float.ofScientific digits true exponent.natAbs

def ofRatio (num : Int) (den : Nat) : Float :=
  (ofInt? num).getD 0.0 / (ofInt? den).getD 1.0

end BurstLoad.Decimal
