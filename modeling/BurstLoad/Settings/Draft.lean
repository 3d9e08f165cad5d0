import BurstLoad.Settings.Failure

/-!
A configuration as it is being settled. Every field holds some value; settling checks the fields
one after the other and replaces each by its normal form, so that a failure leaves the fields
before it normalised and the others as they were given.
-/

set_option autoImplicit false

namespace BurstLoad.Settings

/-- The fields of a configuration, each with any value. -/
structure Draft where
  target : Value
  size : Value
  rate : Value
  port : Value
  nodes : Value
  isLocal : Value
  honest : Value
  burstDuration : Value
  probeDelay : Value
  deriving Inhabited

/-- Why a value is no socket address. The message shows the value, which needs a text for that. -/
def addressFailure (v : Value) : Failure :=
  if v.isShowable then .rejected (.address v) else .unshowable

/-- Reads a socket address; one that is built already is taken as it is. -/
def readEndpoint (v : Value) : Except Failure Endpoint :=
  match v with
  | .endpoint e => .ok e
  | .text s =>
    match Endpoint.read? s.toList with
    | some e => .ok e
    | none => .error (addressFailure v)
  | _ => .error (addressFailure v)

/-- Reads an integer; a truth value is none. -/
def readInteger? : Value → Option Int
  | .int n => some n
  | .text s => (Text.readNatural? s.toList).map Int.ofNat
  | _ => none

/-- The elements of a value: the characters of a text, the numbers of a byte string, the keys of a
mapping. -/
def elements? (v : Value) : Option (List Value) :=
  match v.opened with
  | .list items | .tuple items | .set items => some items
  | .text s => some (s.toList.map fun c => .text (String.singleton c))
  | .bytes b => some (b.map fun x => .int x.toNat)
  | .mapping entries => some (entries.map Prod.fst)
  | .endpoint e => some [.text e.host, .int e.port]
  | _ => none

/-- How a value compares with zero: a number, or a truth value as 1 and 0. -/
inductive Sign where
  | negative
  | zero
  | positive
  -- not a number, so neither below zero nor above nor equal to it
  | unordered
  deriving Repr, DecidableEq

/-- The sign of a value that can be compared with zero. -/
def sign? : Value → Option Sign
  | .bool b => some (if b then .positive else .zero)
  | .int n => some (if n < 0 then .negative else if n = 0 then .zero else .positive)
  | .float x => some (if x < 0 then .negative else if x == 0 then .zero
      else if x > 0 then .positive else .unordered)
  | _ => none

/-- One check: the fields after it, and why it failed if it did. -/
abbrev Check := Draft → Draft × Option Failure

/-- Runs checks up to the first failure. -/
def runChecks : List Check → Check
  | [], d => (d, none)
  | check :: rest, d =>
    match check d with
    | (d, some failure) => (d, some failure)
    | (d, none) => runChecks rest d

def checkTarget : Check := fun d =>
  match readEndpoint d.target with
  | .ok e => ({ d with target := .endpoint e }, none)
  | .error failure => (d, some failure)

/-- The nodes are replaced only if all of them read. -/
def checkNodes : Check := fun d =>
  if !d.nodes.truthy then ({ d with nodes := .list [] }, none)
  else match elements? d.nodes with
    | none => (d, some (.noElements d.nodes))
    | some items =>
      match items.mapM readEndpoint with
      | .ok es => ({ d with nodes := .list (es.map .endpoint) }, none)
      | .error failure => (d, some failure)

/-- The size is replaced before its range is checked. -/
def checkSize : Check := fun d =>
  match readInteger? d.size with
  | none => (d, some (.rejected .sizeNotInteger))
  | some n =>
    let d := { d with size := .int n }
    if n < minSize then (d, some (.rejected .sizeTooSmall))
    else if n > maxSize then (d, some (.rejected .sizeTooLarge))
    else (d, none)

/-- The rate is replaced before its sign is checked. -/
def checkRate : Check := fun d =>
  match readInteger? d.rate with
  | none => (d, some (.rejected .rate))
  | some n =>
    let d := { d with rate := .int n }
    if n < 0 then (d, some (.rejected .rate)) else (d, none)

/-- The port is replaced only if it is valid. -/
def checkPort : Check := fun d =>
  match readInteger? d.port with
  | none => (d, some (.rejected .port))
  | some n =>
    if 0 ≤ n && n ≤ Endpoint.maxPort then ({ d with port := .int n }, none)
    else (d, some (.rejected .port))

def checkBurstDuration : Check := fun d =>
  match sign? d.burstDuration with
  | none => (d, some (.noOrder d.burstDuration .atMost))
  | some s =>
    if s == .negative || s == .zero then (d, some (.rejected .burstDuration)) else (d, none)

def checkProbeDelay : Check := fun d =>
  match sign? d.probeDelay with
  | none => (d, some (.noOrder d.probeDelay .below))
  | some s => if s == .negative then (d, some (.rejected .probeDelay)) else (d, none)

def checkFlags : Check := fun d =>
  ({ d with isLocal := .bool d.isLocal.truthy, honest := .bool d.honest.truthy }, none)

/-- All checks, in their order. -/
def checks : List Check :=
  [checkTarget, checkNodes, checkSize, checkRate, checkPort, checkBurstDuration, checkProbeDelay,
    checkFlags]

/-- Normalises all fields, up to the first failure. -/
def Draft.settle : Check :=
  runChecks checks

end BurstLoad.Settings
