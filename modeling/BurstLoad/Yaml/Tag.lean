/-!
Tags of nodes: what type the content of a node is.
-/

set_option autoImplicit false

namespace BurstLoad.Yaml

inductive Tag where
  | null
  | truth
  | whole
  | float
  | timestamp
  | binary
  | text
  | sequence
  | mapping
  | set
  -- a sequence of mappings of one entry each, whose order counts
  | ordered
  -- the same with keys that may recur
  | pairs
  -- the key under which other mappings are merged in
  | merge
  -- the key of a default value
  | default
  | unknown (name : String)
  deriving Repr, DecidableEq

def Tag.lead : String := "tag:yaml.org,2002:"

def Tag.standard : List (String × Tag) := [
  ("null", .null), ("bool", .truth), ("int", .whole), ("float", .float),
  ("timestamp", .timestamp), ("binary", .binary), ("str", .text), ("seq", .sequence),
  ("map", .mapping), ("set", .set), ("omap", .ordered), ("pairs", .pairs), ("merge", .merge),
  ("value", .default)]

def Tag.ofName (name : String) : Tag :=
  match Tag.standard.find? fun (short, _) => Tag.lead ++ short == name with
  | some (_, tag) => tag
  | none => .unknown name

end BurstLoad.Yaml
