import BurstLoad.Decimal.Shortest

/-!
The text of a floating-point number: its shortest decimal, positional from `0.0001` up to below
`10^16`, otherwise with an exponent of at least two digits; a whole number keeps one zero after
its point.
-/

set_option autoImplicit false

namespace BurstLoad.Decimal

structure Layout where
  -- the point stands at most this many places after the first digit
  maxWhole : Int
  -- at most this many zeros stand between the point and the first digit
  maxLeadingZeros : Int
  exponentWidth : Nat
  infinity : String
  notANumber : String

def Layout.standard : Layout := ⟨16, 3, 2, "inf", "nan"⟩

/-- Digits without trailing zeros, and the exponent that makes up for them. -/
def strip : Nat → Decimal → Decimal
  | 0, d => d
  | fuel + 1, d =>
    if d.digits != 0 && d.digits % 10 == 0 then strip fuel ⟨d.digits / 10, d.exponent + 1⟩
    else d

/-- The digits with a point after the first one, if more follow. -/
def pointAfterFirst : List Char → List Char
  | [] => []
  | [c] => [c]
  | c :: cs => c :: '.' :: cs

def Layout.positive (l : Layout) (d : Decimal) : List Char :=
  let d := d.strip 20
  let ds := Nat.toDigits 10 d.digits
  let point := d.exponent + ds.length
  if -l.maxLeadingZeros ≤ point && point ≤ l.maxWhole then
    if point ≤ 0 then '0' :: '.' :: List.replicate (-point).toNat '0' ++ ds
    else if point ≥ ds.length then
      ds ++ List.replicate (point - ds.length).toNat '0' ++ ['.', '0']
    else ds.take point.toNat ++ '.' :: ds.drop point.toNat
  else
    let e := point - 1
    let es := Nat.toDigits 10 e.natAbs
    pointAfterFirst ds ++ 'e' :: (if e < 0 then '-' else '+') ::
      List.replicate (l.exponentWidth - es.length) '0' ++ es

def Layout.float (l : Layout) (x : Float) : String :=
  let b := Binary.ofFloat x
  let sign := if b.negative then "-" else ""
  if !b.isFinite then
    if b.fraction == 0 then sign ++ l.infinity else l.notANumber
  else if b.significand == 0 then sign ++ "0.0"
  else
    let v := Neighbourhood.ofDyadic b.significand b.power (b.exponent ≤ 1)
    sign ++ String.ofList (l.positive v.shortest)

def floatText (x : Float) : String :=
  Layout.standard.float x

end BurstLoad.Decimal
