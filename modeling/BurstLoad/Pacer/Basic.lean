import BurstLoad.Fault
import BurstLoad.Payload.Generator
import BurstLoad.Simulation

/-!
Bursts and their bookkeeping. A pacer sends `rate` transactions at the start of each burst; a burst
that took longer than it should is an overrun.
-/

set_option autoImplicit false

namespace BurstLoad

structure Burst where
  index : Nat
  started : Time
  nominal : Span
  elapsed : Time := 0
  sent : Nat := 0
  deriving Repr, DecidableEq, Inhabited

def Burst.overrun (b : Burst) : Bool :=
  b.nominal.exceededBy b.elapsed

structure Stats where
  bursts : Nat := 0
  payloads : Nat := 0
  overruns : Nat := 0
  failure : Option Fault := none
  history : List Burst := []
  deriving Inhabited

inductive Status where
  | awaiting
  | running
  | stopped
  | failed
  deriving Repr, DecidableEq

def Status.name : Status → String
  | .awaiting => "awaiting_barrier"
  | .running => "running"
  | .stopped => "stopped"
  | .failed => "failed"

/-- What is needed to send bursts, and what was sent. -/
structure Pacer where
  rate : Nat
  nominal : Span
  historySize : Int := 0
  generator : Payload.Generator
  stats : Stats := {}
  status : Status := .awaiting

namespace Pacer

def negativeRateMessage (rate : Int) : String :=
  "rate must be non-negative, got " ++ toString rate

/-- A pacer before its first run, unless the rate is below zero. -/
def ofRate? (rate : Int) (nominal : Span) (historySize : Int) (generator : Payload.Generator) :
    Except Settings.Failure Pacer :=
  if rate < 0 then .error (.negativeRate rate)
  else .ok { rate := rate.toNat, nominal, historySize, generator }

/-- The history with one burst more, cut to its size: of a positive size the last bursts are kept,
a negative one drops as many of the first, and zero keeps none. -/
def remember (size : Int) (history : List Burst) (b : Burst) : List Burst :=
  if size = 0 then history
  else
    let all := history ++ [b]
    if size > 0 then all.drop (all.length - size.toNat) else all.drop size.natAbs

def openBurst (p : Pacer) (now : Time) : Burst :=
  { index := p.stats.bursts, started := now, nominal := p.nominal }

def countPayload (p : Pacer) : Pacer :=
  { p with stats := { p.stats with payloads := p.stats.payloads + 1 } }

/-- A transaction failed, which ends the run. -/
def fail (p : Pacer) (fault : Fault) : Pacer :=
  { p with stats := { p.stats with failure := some fault }, status := .failed }

def completeBurst (p : Pacer) (b : Burst) : Pacer :=
  { p with
    generator := p.generator.advanceBurst
    stats := { p.stats with
      bursts := p.stats.bursts + 1
      overruns := p.stats.overruns + (if b.overrun then 1 else 0)
      history := remember p.historySize p.stats.history b } }

/-- Whether as many bursts were sent as a run may have. -/
def reached (p : Pacer) (maxBursts : Option Int) : Bool :=
  match maxBursts with
  | some n => n ≤ p.stats.bursts
  | none => false

def startNotice : Notice := ⟨.info, .scheduler, "Start sending transactions"⟩
def burstNotice : Notice := ⟨.debug, .scheduler, "Sending burst"⟩
def overrunNotice : Notice := ⟨.warning, .scheduler, "Transaction rate too high for this client"⟩
def failureNotice (fault : Fault) : Notice :=
  ⟨.warning, .scheduler, "Failed to send transaction: " ++ fault.text⟩

end Pacer

end BurstLoad
