import BurstLoad.Settings.Basic
import BurstLoad.Value.Key

/-!
Values of any type from which a configuration is read. A mapping gives its entries; any other
collection is asked for its elements as if they were keys, and has no values under them. For the
entries of a file a row of pairs does as well, and whatever counts as false gives none.
-/

set_option autoImplicit false

namespace BurstLoad.Settings

/-- The keys of a value that is no mapping, each once. -/
def keysOf (v : Value) : Except Failure (List Value) :=
  match elements? v with
  | none => .error (.noElements v)
  | some keys =>
    match keys.find? fun key => !key.isKey with
    | none => .ok ((keys.foldl (fun es key => Value.putKey key .null es) []).map Prod.fst)
    | some key => .error (.unhashable key)

def draftOfValue (v : Value) : Except Failure Draft := do
  match v.opened with
  | .mapping entries => draftFromEntries entries
  | v =>
    let entries := (← keysOf v).map fun key => (key, .null)
    match unknownKeys? entries with
    | none => .error (.strangeKeys (unknownKeys entries))
    | some [] => .error .noMapping
    | some keys => .error (.rejected (.unknownKeys (sortedKeys keys)))

/-- Reads and settles the configuration that a value gives. -/
def ofValue (v : Value) : Except Failure Settings := do
  settle (← draftOfValue v)

/-- The entry that a pair gives at its place in a row. -/
def entryOfPair (v : Value) (place : Nat) : Except Failure (Value × Value) :=
  match elements? v with
  | none => .error (.uncollected place)
  | some [key, value] => if key.isKey then .ok (key, value) else .error (.unhashable key)
  | some items => .error (.unpaired place items.length)

def entriesOfValue (v : Value) : Except Failure Entries :=
  if v.truthy then
    match v.opened with
    | .mapping entries => .ok entries
    | v =>
      match elements? v with
      | none => .error (.noElements v)
      | some pairs =>
        pairs.zipIdx.foldlM (fun es (pair, place) => do
          let (key, value) ← entryOfPair pair place
          pure (Value.putKey key value es)) []
  else .ok []

end BurstLoad.Settings
