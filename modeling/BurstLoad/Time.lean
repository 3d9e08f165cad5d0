import BurstLoad.Decimal.Whole

/-!
Virtual time. It is counted in milliseconds and is exact: a third of a millisecond taken three times
is one millisecond. It is shown in whole milliseconds, a half one to the even neighbour.
-/

set_option autoImplicit false

namespace BurstLoad

abbrev Time := Rat

namespace Time

/-- The nearest whole number of milliseconds, of two the even one. -/
def rounded (t : Time) : Int :=
  let below := t.floor
  let rest := t - below
  if rest < 1 / 2 || rest = 1 / 2 && below % 2 = 0 then below else below + 1

def later (s t : Time) : Time :=
  if s ≤ t then t else s

def ofDyadic (m q : Int) : Time :=
  let unit : Int := (Nat.pow 2 q.natAbs : Nat)
  if q ≥ 0 then m * unit else mkRat m unit.toNat

/-- The exact value of a finite floating-point number. -/
def ofFloat? (x : Float) : Option Time :=
  (Decimal.dyadic? x).map fun (m, q) => ofDyadic m q

end Time

/-- A length of time; an endless one never passes. -/
inductive Span where
  | ms (n : Time)
  | endless
  deriving Repr, DecidableEq, Inhabited

namespace Span

/-- The moment a span after another, if it ever comes. -/
def after (s : Span) (start : Time) : Option Time :=
  match s with
  | .ms n => some (start + n)
  | .endless => none

def exceededBy (s : Span) (elapsed : Time) : Bool :=
  match s with
  | .ms n => n < elapsed
  | .endless => false

def reachedBy (s : Span) (elapsed : Time) : Bool :=
  match s with
  | .ms n => n ≤ elapsed
  | .endless => false

end Span

end BurstLoad
