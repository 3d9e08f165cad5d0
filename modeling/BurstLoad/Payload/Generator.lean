import BurstLoad.Journal
import BurstLoad.Payload.Header

/-!
Where the transactions of a run come from. A sample carries the number of its burst and the run's
identifier and is announced in the log; a filler carries the filler tag and a nonce that grows by
one with each transaction.
-/

set_option autoImplicit false

namespace BurstLoad.Payload

structure Counters where
  runId : Int
  nonce : Int
  burst : Int
  deriving Repr, DecidableEq, Inhabited

/-- The message for a run identifier that does not fit into a word. -/
def badRunIdMessage (runId : Int) : String :=
  "run_id " ++ toString runId ++ " is not a 32-bit value"

/-- Counters to start from: the run identifier must be a word, the nonce is taken modulo `2^32`. -/
def Counters.ofInitial? (runId nonce burst : Int) : Option Counters :=
  if 0 ≤ runId && runId ≤ Bytes.maxWord then some ⟨runId, word nonce, burst⟩ else none

/-- Why there is nothing to start from. -/
inductive StartFailure where
  | runId (given : Int)
  | size (cause : Settings.Rejection)

/-- Counters to start from; those that are not given are taken from random numbers, the run
identifier first. -/
def Counters.start (runId? nonce? : Option Int) (burst : Int) (random : List Int) :
    Except StartFailure Counters :=
  let runId := runId?.getD (random.headD 0)
  let nonce := nonce?.getD ((if runId?.isSome then random else random.drop 1).headD 0)
  match ofInitial? runId nonce burst with
  | some c => .ok c
  | none => .error (.runId runId)

def Counters.advanceBurst (c : Counters) : Counters :=
  { c with burst := c.burst + 1 }

/-- The next nonce, which wraps around after `2^32`. -/
def Counters.nextNonce (c : Counters) : Counters :=
  { c with nonce := word (c.nonce + 1) }

structure Generator where
  honest : Bool
  size : Nat
  counters : Counters
  size_ge : headerSize ≤ size
  deriving Repr

instance : Inhabited Generator := ⟨⟨false, headerSize, default, Nat.le_refl _⟩⟩

/-- A generator, unless the size is too small. -/
def Generator.ofSize? (honest : Bool) (size : Int) (counters : Counters) :
    Except Settings.Rejection Generator :=
  if h : size < headerSize then .error .sizeTooSmall
  else .ok ⟨honest, size.toNat, counters, by omega⟩

/-- A generator with the counters that are given, or with counters all of which are random. Given ones
are looked at before the size is, random ones after it. -/
def Generator.start (honest : Bool) (size : Int) (given : Option (Except StartFailure Counters))
    (random : List Int) : Except StartFailure Generator := do
  let c ← given.getD (.ok ⟨0, 0, 0⟩)
  match ofSize? honest size c with
  | .error cause => .error (.size cause)
  | .ok g =>
    if given.isSome then pure g
    else pure { g with counters := ← Counters.start none none 0 random }

def sampleTag (burst : Int) : Int :=
  burst.emod sampleTagCount

def sampleNotice (c : Counters) : Notice :=
  ⟨.info, .generator, "Sending sample transaction " ++
    toString (sampleId (sampleTag c.burst) c.runId) ++ ", (client " ++ toString c.runId ++
    ", count " ++ toString c.burst ++ ")"⟩

/-- A transaction together with what is logged for it. -/
structure Emission where
  payload : Bytes
  notices : List Notice

def Generator.next (g : Generator) : Generator × Emission :=
  if g.honest then
    (g, ⟨build (sampleTag g.counters.burst) g.counters.runId g.size, [sampleNotice g.counters]⟩)
  else
    let c := g.counters.nextNonce
    ({ g with counters := c }, ⟨build fillerTag c.nonce g.size, []⟩)

/-- The generator after a burst. -/
def Generator.advanceBurst (g : Generator) : Generator :=
  { g with counters := g.counters.advanceBurst }

end BurstLoad.Payload
