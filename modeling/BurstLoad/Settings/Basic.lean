import BurstLoad.Decimal.Whole
import BurstLoad.Settings.Draft

/-!
Settled configurations. `Draft.settled` gives one for a draft whose checks all pass;
`fromEntries` reads one from a mapping and `toEntries` writes it back.
-/

set_option autoImplicit false

namespace BurstLoad

structure Settings where
  target : Endpoint
  size : Int
  rate : Int
  port : Int
  nodes : List Endpoint
  isLocal : Bool
  honest : Bool
  -- in milliseconds, a number of any kind
  burstDuration : Value
  probeDelay : Value

namespace Settings

/-- The milliseconds of a burst and between two probes, unless given. -/
def defaultBurstDuration : Int := 1000
def defaultProbeDelay : Int := 10

/-- The keys of a configuration, those first that are required. -/
def requiredKeys : List String := ["target", "size", "rate", "port"]
def optionalKeys : List String := ["nodes", "local", "honest", "burst_duration_ms", "probe_delay_ms"]

def endpoint? : Value → Option Endpoint
  | .endpoint e => some e
  | _ => none

def ofDraft? (d : Draft) : Option Settings :=
  match d.target, d.size, d.rate, d.port, d.nodes, d.isLocal, d.honest with
  | .endpoint target, .int size, .int rate, .int port, .list nodes, .bool isLocal, .bool honest =>
    (nodes.mapM endpoint?).map fun nodes =>
      { target, size, rate, port, nodes, isLocal, honest
        burstDuration := d.burstDuration, probeDelay := d.probeDelay }
  | _, _, _, _, _, _, _ => none

/-- The settled configuration of a draft, or the first failure. -/
def settle (d : Draft) : Except Failure Settings :=
  match d.settle with
  | (_, some failure) => .error failure
  | (d, none) =>
    match ofDraft? d with
    | some s => .ok s
    | none => .error .unsettled

def toDraft (s : Settings) : Draft where
  target := .endpoint s.target
  size := .int s.size
  rate := .int s.rate
  port := .int s.port
  nodes := .list (s.nodes.map .endpoint)
  isLocal := .bool s.isLocal
  honest := .bool s.honest
  burstDuration := s.burstDuration
  probeDelay := s.probeDelay

abbrev Entries := List (Value × Value)

def lookup? (entries : Entries) (key : String) : Option Value :=
  (entries.find? fun | (.text k, _) => k == key | _ => false).map Prod.snd

def name? : Value → Option String
  | .text k => some k
  | _ => none

def isKnownKey (key : Value) : Bool :=
  (name? key).any (requiredKeys ++ optionalKeys).contains

/-- The keys of a mapping that no configuration has. -/
def unknownKeys (entries : Entries) : List Value :=
  (entries.map Prod.fst).filter fun key => !isKnownKey key

/-- The keys that no configuration has, as texts: none if one of them is not a text. -/
def unknownKeys? (entries : Entries) : Option (List String) :=
  (unknownKeys entries).mapM name?

/-- The draft that a mapping gives, with the defaults for what it leaves out. -/
def draftOf (entries : Entries) : Draft where
  target := (lookup? entries "target").getD .null
  size := (lookup? entries "size").getD .null
  rate := (lookup? entries "rate").getD .null
  port := (lookup? entries "port").getD .null
  nodes := (lookup? entries "nodes").getD (.list [])
  isLocal := (lookup? entries "local").getD (.bool false)
  honest := (lookup? entries "honest").getD (.bool false)
  burstDuration := (lookup? entries "burst_duration_ms").getD (.int defaultBurstDuration)
  probeDelay := (lookup? entries "probe_delay_ms").getD (.int defaultProbeDelay)

def Draft.toEntries (d : Draft) : Entries := [
  (.text "target", d.target), (.text "size", d.size), (.text "rate", d.rate),
  (.text "port", d.port), (.text "nodes", d.nodes), (.text "local", d.isLocal),
  (.text "honest", d.honest), (.text "burst_duration_ms", d.burstDuration),
  (.text "probe_delay_ms", d.probeDelay)]

/-- Sets the field under a key; under a key that no configuration has nothing is set. -/
def Draft.set (d : Draft) (key : String) (value : Value) : Draft :=
  match key with
  | "target" => { d with target := value }
  | "size" => { d with size := value }
  | "rate" => { d with rate := value }
  | "port" => { d with port := value }
  | "nodes" => { d with nodes := value }
  | "local" => { d with isLocal := value }
  | "honest" => { d with honest := value }
  | "burst_duration_ms" => { d with burstDuration := value }
  | "probe_delay_ms" => { d with probeDelay := value }
  | _ => d

/-- The first required key without a value. -/
def missingKey? (entries : Entries) : Option String :=
  requiredKeys.find? fun key => ((lookup? entries key).getD .null).isNull

def sortedKeys (keys : List String) : List String :=
  keys.mergeSort fun a b => !List.lex (Text.codes b) (Text.codes a) fun m n => m < n

/-- Reads a configuration: first its keys, then its fields. -/
def draftFromEntries (entries : Entries) : Except Failure Draft :=
  match unknownKeys? entries with
  | none => .error (.strangeKeys (unknownKeys entries))
  | some [] =>
    match missingKey? entries with
    | some key => .error (.rejected (.missing key))
    | none => .ok (draftOf entries)
  | some keys => .error (.rejected (.unknownKeys (sortedKeys keys)))

def fromEntries (entries : Entries) : Except Failure Settings := do
  settle (← draftFromEntries entries)

/-- A configuration as a mapping, its socket addresses as texts. -/
def toEntries (s : Settings) : Entries := [
  (.text "target", .text s.target.print),
  (.text "size", .int s.size),
  (.text "rate", .int s.rate),
  (.text "port", .int s.port),
  (.text "nodes", .list (s.nodes.map fun e => .text e.print)),
  (.text "local", .bool s.isLocal),
  (.text "honest", .bool s.honest),
  (.text "burst_duration_ms", s.burstDuration),
  (.text "probe_delay_ms", s.probeDelay)]

/-- Whether two configurations agree in all but the durations, which no step replaces. -/
def agrees (s t : Settings) : Bool :=
  s.target == t.target && s.nodes == t.nodes && s.size == t.size && s.rate == t.rate &&
    s.port == t.port && s.isLocal == t.isLocal && s.honest == t.honest

def bindHost (s : Settings) : String :=
  if s.isLocal then "127.0.0.1" else "0.0.0.0"

def listenAddress (s : Settings) : Endpoint :=
  ⟨s.bindHost, s.port⟩

def seconds : Value → Except Failure Float
  | .int n =>
    match Decimal.ofInt? n with
    | some x => .ok (x / 1000.0)
    | none => .error .overflow
  | .bool b => .ok ((if b then 1.0 else 0.0) / 1000.0)
  | .float x => .ok (x / 1000.0)
  | v => .error (.noQuotient v)

/-- Sets the value under a textual key; a new key comes last. -/
def put (entries : Entries) (key : String) (value : Value) : Entries :=
  if (lookup? entries key).isSome then
    entries.map fun
      | (.text k, v) => if k == key then (.text k, value) else (.text k, v)
      | entry => entry
  else entries ++ [(.text key, value)]

/-- The entries of a file with those laid over them that are not null. -/
def overlay (entries : Entries) (overrides : List (String × Value)) : Entries :=
  overrides.foldl (fun es (key, value) => if value.isNull then es else put es key value) entries

/-- The name under which the entries of a file are handed over, which no override can have. -/
def fileName : String := "file_values"

/-- Reads a configuration from the entries of a file and those that override them. -/
def build (entries : Entries) (overrides : List (String × Value)) : Except Failure Settings :=
  if overrides.any fun o => o.1 == fileName then .error (.nameTaken fileName)
  else fromEntries (overlay entries overrides)

end Settings

end BurstLoad
