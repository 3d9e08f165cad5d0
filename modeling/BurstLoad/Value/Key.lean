import BurstLoad.Value

/-!
Values as keys of mappings. A key is a value that cannot change; numbers of all types are one and
the same key if they are equal.
-/

set_option autoImplicit false

namespace BurstLoad.Value

/-- Whether two keys are one and the same; numbers are compared by their values. -/
def sameKey (a b : Value) : Bool :=
  match a.whole?, b.whole? with
  | some m, some n => m == n
  | none, none =>
    match a, b with
    | .null, .null => true
    | .text s, .text t => s == t
    | .bytes s, .bytes t => s == t
    | .float x, .float y => x == y
    | .moment m, .moment n => m.same n
    | .endpoint e, .endpoint f => e == f
    | _, _ => false
  | _, _ => false

/-- Whether a value can be a key: it is no collection that can change. -/
def isKey : Value → Bool
  | .list _ | .set _ | .mapping _ | .knot _ _ | .back _ => false
  | _ => true

/-- Sets the value of a key; one that is there already stays in its place. -/
def putKey (key value : Value) : List (Value × Value) → List (Value × Value)
  | [] => [(key, value)]
  | (k, v) :: rest => if k.sameKey key then (k, value) :: rest else (k, v) :: putKey key value rest

end BurstLoad.Value
