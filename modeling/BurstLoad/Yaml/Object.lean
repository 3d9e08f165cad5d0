import BurstLoad.Value.Key
import BurstLoad.Yaml.Node
import BurstLoad.Yaml.Scalar

/-!
What the nodes of a document stand for. The object of a scalar is made as soon as the scalar is
met; a collection is begun, and filled when all that were begun before it are full. So of several
failures the one nearest to the root is reported, and a node that contains itself finds itself
begun.
-/

set_option autoImplicit false

namespace BurstLoad.Yaml

/-- The object of a node. Its parts are the objects of other nodes, known by their places. -/
inductive Object where
  -- the value of a scalar with the text that it was read from
  | scalar (v : Value) (text : String)
  | list (items : List Nat)
  | pairs (items : List (Nat × Nat))
  | mapping (entries : List (Nat × Nat))
  | set (items : List Nat)

structure Workshop where
  nodes : Nodes
  objects : Array (Option Object)
  -- the collections to be filled, in the order in which they were begun
  begun : List Nat := []

namespace Object

/-- Whether two objects are one and the same key. What is no number is the same only if it was
written as the sign for it. -/
def sameAs (a b : Object) : Bool :=
  match a, b with
  | .scalar v s, .scalar w t => v.sameKey w || (Scalar.isNoNumber s && Scalar.isNoNumber t)
  | _, _ => false

/-- Whether an object can be a key, as only scalars can. -/
def isKey : Object → Bool
  | .scalar _ _ => true
  | _ => false

end Object

namespace Workshop

def ofNodes (nodes : Nodes) : Workshop where
  nodes := nodes
  objects := Array.replicate nodes.size none

/-- The object of a node, if it is made or begun. -/
def object? (w : Workshop) (place : Nat) : Option Object :=
  (w.objects[place]?).join

def put (w : Workshop) (place : Nat) (o : Object) : Workshop :=
  { w with objects := w.objects.setIfInBounds place (some o) }

def start (w : Workshop) (place : Nat) (o : Object) : Workshop :=
  { w.put place o with begun := w.begun ++ [place] }

/-- The text of a scalar. A mapping has that of its default value. -/
def text (ns : Nodes) : Nat → Nat → Except Failure String
  | 0, _ => .error (.misfit .endless)
  | fuel + 1, place =>
    match ns.node place with
    | .scalar _ s => .ok s
    | .sequence _ _ => .error .malformed
    | .mapping _ entries =>
      match entries.find? fun e => (ns.node e.1).tag = .default with
      | some (_, value) => text ns fuel value
      | none => .error .malformed

/-- Makes the object of a scalar. The form of a timestamp is looked for in the scalar itself. -/
def makeScalar (w : Workshop) (place : Nat) : Except Failure Workshop := do
  let node := w.nodes.node place
  let s ← text w.nodes (w.nodes.size + 1) place
  match node.tag, node with
  | .timestamp, .mapping _ _ => .error (.misfit .shape)
  | tag, _ => pure (w.put place (.scalar (← Scalar.read tag s) s))

def make (w : Workshop) (place : Nat) : Except Failure Workshop :=
  if (w.object? place).isSome then .ok w
  else match (w.nodes.node place).tag with
    | .sequence => .ok (w.start place (.list []))
    | .mapping => .ok (w.start place (.mapping []))
    | .set => .ok (w.start place (.set []))
    | .ordered | .pairs => .ok (w.start place (.pairs []))
    | .merge | .default | .unknown _ => .error .malformed
    | _ => w.makeScalar place

/-- Sets the value of a key; one that is there already stays in its place. -/
def putKey (w : Workshop) (key value : Nat) : List (Nat × Nat) → List (Nat × Nat)
  | [] => [(key, value)]
  | (k, v) :: rest =>
    let same := k == key || match w.object? k, w.object? key with
      | some a, some b => a.sameAs b
      | _, _ => false
    if same then (k, value) :: rest else (k, v) :: w.putKey key value rest

/-- Makes the keys and values of a mapping, and puts its entries together: later ones win. -/
def gather (w : Workshop) (entries : List (Nat × Nat)) :
    Except Failure (Workshop × List (Nat × Nat)) :=
  entries.foldlM (fun (w, all) (key, value) => do
    let w ← w.make key
    if ((w.object? key).map Object.isKey).getD false then
      let w ← w.make value
      pure (w, w.putKey key value all)
    else .error .malformed) (w, [])

def single? (w : Workshop) (place : Nat) : Option (Nat × Nat) :=
  match w.nodes.node place with
  | .mapping _ [entry] => some entry
  | _ => none

def complete (w : Workshop) (place : Nat) : Except Failure Workshop := do
  let node := w.nodes.node place
  match node.tag, node with
  | .sequence, .sequence _ items =>
    pure ((← items.foldlM make w).put place (.list items))
  | .ordered, .sequence _ items | .pairs, .sequence _ items =>
    let (w, entries) ← items.foldlM (fun (w, entries) item =>
      match w.single? item with
      | some (key, value) => do pure (← (← w.make key).make value, entries ++ [(key, value)])
      | none => .error .malformed) (w, [])
    pure (w.put place (.pairs entries))
  | .mapping, .mapping _ _ =>
    let w := { w with nodes := ← w.nodes.flatten place }
    let (w, entries) ← w.gather (w.nodes.entries place)
    pure (w.put place (.mapping entries))
  | .set, .mapping _ _ =>
    let w := { w with nodes := ← w.nodes.flatten place }
    let (w, entries) ← w.gather (w.nodes.entries place)
    pure (w.put place (.set (entries.map Prod.fst)))
  | _, _ => .error .malformed

/-- Fills what is begun until nothing is left; each node is begun at most once. -/
def completeAll : Nat → Workshop → Except Failure Workshop
  | 0, w => .ok w
  | fuel + 1, w =>
    match w.begun with
    | [] => .ok w
    | place :: rest => do completeAll fuel (← { w with begun := rest }.complete place)

/-- The values of a set; whole numbers are in their order. -/
def setOf (items : List Value) : Value :=
  match items.mapM Value.whole? with
  | some _ => .set (items.mergeSort fun a b => decide (a.whole?.getD 0 ≤ b.whole?.getD 0))
  | none => .set items

def listOfPairs (all : List (Value × Value)) : Value :=
  .list (all.map fun (k, v) => .tuple [k, v])

mutual

/-- The value of an object, and the labels of the collections around it to which it leads back. -/
def value (w : Workshop) : Nat → List Nat → Nat → Value × List Nat
  | 0, _, _ => (.null, [])
  | fuel + 1, around, place =>
    if around.contains place then (.back place, [place])
    else
      let inside := place :: around
      let (v, labels) := match w.object? place with
        | some (.scalar v _) => (v, [])
        | some (.list items) => (w.values fuel inside items).map .list id
        | some (.set items) => (w.values fuel inside items).map setOf id
        | some (.mapping entries) => (w.entryValues fuel inside entries).map .mapping id
        | some (.pairs entries) =>
          (w.entryValues fuel inside entries).map listOfPairs id
        | none => (.null, [])
      if labels.contains place then (.knot place v, labels.filter (· != place))
      else (v, labels)

def values (w : Workshop) : Nat → List Nat → List Nat → List Value × List Nat
  | 0, _, _ => ([], [])
  | fuel + 1, around, places =>
    match places with
    | [] => ([], [])
    | place :: places =>
      let (v, labels) := w.value fuel around place
      let (vs, more) := w.values fuel around places
      (v :: vs, labels ++ more)

def entryValues (w : Workshop) : Nat → List Nat → List (Nat × Nat) →
    List (Value × Value) × List Nat
  | 0, _, _ => ([], [])
  | fuel + 1, around, entries =>
    match entries with
    | [] => ([], [])
    | (key, place) :: rest =>
      let (k, first) := w.value fuel around key
      let (v, second) := w.value fuel around place
      let (all, more) := w.entryValues fuel around rest
      ((k, v) :: all, first ++ second ++ more)

end

end Workshop

/-- A bound on the depth of values: collections around a place differ, and each has no more parts
than there are all together. -/
def Nodes.depth (ns : Nodes) : Nat :=
  ns.foldl (fun n node => match node with
    | .scalar _ _ => n + 2
    | .sequence _ items => n + items.length + 3
    | .mapping _ entries => n + entries.length + 3) 2

def Nodes.value (ns : Nodes) (root : Nat) : Except Failure Value := do
  let w ← (Workshop.ofNodes ns).make root
  let w ← w.completeAll (ns.size + 1)
  pure (w.value w.nodes.depth [] root).1

end BurstLoad.Yaml
