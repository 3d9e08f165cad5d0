import BurstLoad.Yaml.Failure
import BurstLoad.Yaml.Tag

/-!
The nodes of a document in a row. A collection names its parts by their places, so that several
places may refer to one node, and a node may contain itself.

A mapping may merge others in: the entries that these bring come before its own, so that its own
win. Merging takes the merging keys out, hence a mapping that is merged again brings all it has.
-/

set_option autoImplicit false

namespace BurstLoad.Yaml

inductive Node where
  | scalar (tag : Tag) (text : String)
  | sequence (tag : Tag) (items : List Nat)
  | mapping (tag : Tag) (entries : List (Nat × Nat))
  deriving Repr, DecidableEq

namespace Node

/-- The node without content. -/
def empty : Node := .scalar .null ""

instance : Inhabited Node := ⟨empty⟩

def tag : Node → Tag
  | .scalar tag _ | .sequence tag _ | .mapping tag _ => tag

def withTag (tag : Tag) : Node → Node
  | .scalar _ text => .scalar tag text
  | .sequence _ items => .sequence tag items
  | .mapping _ entries => .mapping tag entries

end Node

abbrev Nodes := Array Node

namespace Nodes

def node (ns : Nodes) (place : Nat) : Node :=
  ns.getD place .empty

def entries (ns : Nodes) (place : Nat) : List (Nat × Nat) :=
  match ns.node place with
  | .mapping _ entries => entries
  | _ => []

def setEntries (ns : Nodes) (place : Nat) (entries : List (Nat × Nat)) : Nodes :=
  ns.setIfInBounds place (.mapping (ns.node place).tag entries)

/-- The value under the first merging key, and the entries without it. -/
def takeMerge? (ns : Nodes) : List (Nat × Nat) → Option (Nat × List (Nat × Nat))
  | [] => none
  | (k, v) :: rest =>
    if (ns.node k).tag = .merge then some (v, rest)
    else (ns.takeMerge? rest).map fun (w, rest) => (w, (k, v) :: rest)

/-- Makes the sign for a default value an ordinary key. -/
def makePlain (ns : Nodes) (key : Nat) : Nodes :=
  if (ns.node key).tag = .default then
    ns.setIfInBounds key ((ns.node key).withTag .text)
  else ns

mutual

/-- Merges into the mapping at a place; `brought` is what was merged in before. -/
def merge : Nat → Nat → List (Nat × Nat) → Nodes → Except Failure Nodes
  | 0, _, _, _ => .error .malformed
  | fuel + 1, place, brought, ns =>
    match ns.takeMerge? (ns.entries place) with
    | none =>
      let own := ns.entries place
      .ok ((own.foldl (fun ns entry => ns.makePlain entry.1) ns).setEntries place (brought ++ own))
    | some (value, rest) => do
      let (more, ns) ← match (ns.setEntries place rest).node value with
        | .mapping _ _ => mergedEntries fuel [value] (ns.setEntries place rest)
        | .sequence _ items => mergedEntries fuel items (ns.setEntries place rest)
        | .scalar _ _ => .error .malformed
      merge fuel place (brought ++ more) ns

/-- The entries that mappings bring; the first of several wins, so it comes last. -/
def mergedEntries : Nat → List Nat → Nodes → Except Failure (List (Nat × Nat) × Nodes)
  | _, [], ns => .ok ([], ns)
  | 0, _, _ => .error .malformed
  | fuel + 1, place :: places, ns =>
    match ns.node place with
    | .mapping _ _ => do
      let ns ← merge fuel place [] ns
      let own := ns.entries place
      let (more, ns) ← mergedEntries fuel places ns
      pure (more ++ own, ns)
    | _ => .error .malformed

end

/-- Merges into the mapping at a place. Each call has fewer merging keys left, or fewer mappings of
a sequence; the depth of calls is less than the product of both. -/
def flatten (ns : Nodes) (place : Nat) : Except Failure Nodes :=
  let parts := ns.foldl (fun n node => match node with
    | .scalar _ _ => n
    | .sequence _ items => n + items.length
    | .mapping _ entries => n + entries.length) 0
  ns.merge ((parts + 1) * (parts + 1) + 1) place []

end Nodes

end BurstLoad.Yaml
