import BurstLoad.Yaml.Node
import BurstLoad.Yaml.Scalar
import BurstLoad.Yaml.Token.Row

/-!
The nodes that a row of tokens writes. A text holds at most one document; a name belongs to one
node and can be referred to from the start of that node on. Where the row breaks off, reading fails
as soon as it looks there.
-/

set_option autoImplicit false

namespace BurstLoad.Yaml.Node

/-- The greatest number of collections around a node. -/
def maxDepth : Nat := 484

/-- The tokens to come, the nodes so far and the names of some of them, and what the handles of
tags stand for. -/
structure Reading where
  tokens : List Token
  -- how many nodes are being read, each inside the one before
  depth : Nat := 0
  nodes : Nodes := #[]
  named : List (String × Nat) := []
  handles : List (String × String) := []

structure Properties where
  anchor : Option String := none
  tag : Option (Option String × String) := none

/-- The name and the tag of a node, in either order. -/
def Properties.read (r : Reading) : Properties × Reading :=
  match r.tokens with
  | .anchor name :: .tag h s :: rest => (⟨some name, some (h, s)⟩, { r with tokens := rest })
  | .tag h s :: .anchor name :: rest => (⟨some name, some (h, s)⟩, { r with tokens := rest })
  | .anchor name :: rest => (⟨some name, none⟩, { r with tokens := rest })
  | .tag h s :: rest => (⟨none, some (h, s)⟩, { r with tokens := rest })
  | _ => ({}, r)

/-- Whether a tag is given, be it one that leaves the type open. -/
def Properties.isTagged (p : Properties) : Bool :=
  p.tag.isSome

/-- A scalar. An open type is decided by the form of the text, if it is plain or the tag says so. -/
def ofScalar (name? : Option String) (plain : Bool) (text : String) : Node :=
  match name? with
  | some name => .scalar (Tag.ofName name) text
  | none => .scalar (if plain then Scalar.tagOf text else .text) text

/-- Adds a node; its place is the result. -/
def Reading.add (r : Reading) (node : Node) : Nat × Reading :=
  (r.nodes.size, { r with nodes := r.nodes.push node })

/-- Adds a node without content. -/
def Reading.addEmpty (r : Reading) : Nat × Reading :=
  r.add empty

/-- Sets the content of a node that was added before. -/
def Reading.set (r : Reading) (place : Nat) (node : Node) : Reading :=
  { r with nodes := r.nodes.setIfInBounds place node }

/-- Adds a node whose content follows, under its name if it has one. -/
def Reading.reserve (r : Reading) (anchor : Option String) : Nat × Reading :=
  let (place, r) := r.addEmpty
  match anchor with
  | some name => (place, { r with named := (name, place) :: r.named })
  | none => (place, r)

/-- The failure where no token fits: the row breaks off there, or the text is no document. -/
def Reading.refusal (r : Reading) : Failure :=
  match r.tokens with
  | .unreadable m :: _ => .misfit m
  | _ => .malformed

/-- The full name of a tag; none or a single exclamation mark leaves the type open. -/
def Properties.tagName? (p : Properties) (r : Reading) : Except Failure (Option String) :=
  match p.tag with
  | none => .ok none
  | some (none, suffix) => .ok (if suffix == "!" then none else some suffix)
  | some (some handle, suffix) =>
    match r.handles.find? fun (h, _) => h == handle with
    | some (_, lead) =>
      let name := lead ++ suffix
      .ok (if name == "!" then none else some name)
    | none => .error r.refusal

/-- Whether a name was given before. -/
def Reading.knows (r : Reading) (anchor : Option String) : Bool :=
  match anchor with
  | some name => r.named.any fun (n, _) => n == name
  | none => false

/-- Whether no node begins here inside a block collection. -/
def endsEntry (inMapping : Bool) (tokens : List Token) : Bool :=
  match tokens with
  | .blockEnd :: _ => true
  | .blockEntry :: _ => !inMapping
  | .key :: _ => inMapping
  | .value :: _ => inMapping
  | _ => false

/-- Whether no node begins here inside a sequence that is indented like the mapping around it. -/
def endsDashed (tokens : List Token) : Bool :=
  match tokens with
  | .blockEnd :: _ | .blockEntry :: _ | .key :: _ | .value :: _ => true
  | _ => false

/-- Whether no node begins here inside a flow collection. -/
def endsFlow (tokens : List Token) : Bool :=
  match tokens with
  | .flowEntry :: _ | .flowSequenceEnd :: _ | .flowMappingEnd :: _ | .value :: _ => true
  | _ => false

mutual

/-- A node: a reference, or content with its properties. In block context collections may be
indented; behind a key a sequence need not be. -/
def node (inBlock dashed : Bool) : Nat → Reading → Except Failure (Nat × Reading)
  | 0, _ => .error .malformed
  | fuel + 1, r =>
    match r.tokens with
    | .reference name :: rest =>
      match r.named.lookup name with
      | some place => .ok (place, { r with tokens := rest })
      | none => .error .malformed
    | _ => do
      let (p, r) := Properties.read r
      let name? ← p.tagName? r
      if r.knows p.anchor then .error r.refusal
      else if maxDepth < r.depth then .error (.misfit .tooDeep)
      else
        let depth := r.depth
        let (place, r) := { r with depth := depth + 1 }.reserve p.anchor
        let (found, r) ← content inBlock dashed p name? fuel r
        pure (place, { r with depth }.set place found)

/-- The content of a node; with properties it may be empty. -/
def content (inBlock dashed : Bool) (p : Properties) (name? : Option String) :
    Nat → Reading → Except Failure (Node × Reading)
  | 0, _ => .error .malformed
  | fuel + 1, r =>
    let sequence (items : List Nat) := Node.sequence ((name?.map Tag.ofName).getD .sequence) items
    let mapping (entries : List (Nat × Nat)) :=
      Node.mapping ((name?.map Tag.ofName).getD .mapping) entries
    match r.tokens with
    | .scalar text plain :: rest =>
      .ok (ofScalar name? (plain || p.isTagged) text, { r with tokens := rest })
    | .flowSequenceStart :: rest => do
      let (items, r) ← flowItems true fuel { r with tokens := rest }
      pure (sequence items, r)
    | .flowMappingStart :: rest => do
      let (entries, r) ← flowEntries true fuel { r with tokens := rest }
      pure (mapping entries, r)
    | .blockEntry :: _ =>
      if dashed then do
        let (items, r) ← dashedItems fuel r
        pure (sequence items, r)
      else emptyContent p name? r
    | .blockSequenceStart :: rest =>
      if inBlock then do
        let (items, r) ← blockItems fuel { r with tokens := rest }
        pure (sequence items, r)
      else emptyContent p name? r
    | .blockMappingStart :: rest =>
      if inBlock then do
        let (entries, r) ← blockEntries fuel { r with tokens := rest }
        pure (mapping entries, r)
      else emptyContent p name? r
    | .unreadable m :: _ => .error (.misfit m)
    | _ => emptyContent p name? r

/-- No content, which only a node with properties may have. -/
def emptyContent (p : Properties) (name? : Option String) (r : Reading) : Except Failure (Node × Reading) :=
  if p.anchor.isSome || p.isTagged then .ok (ofScalar name? true "", r) else .error .malformed

def blockItems : Nat → Reading → Except Failure (List Nat × Reading)
  | 0, _ => .error .malformed
  | fuel + 1, r =>
    match r.tokens with
    | .blockEntry :: rest => do
      let r := { r with tokens := rest }
      let (item, r) ← if endsEntry false rest then pure r.addEmpty else node true false fuel r
      let (items, r) ← blockItems fuel r
      pure (item :: items, r)
    | .blockEnd :: rest => .ok ([], { r with tokens := rest })
    | _ => .error r.refusal

/-- The items of a sequence that is indented like the mapping around it. -/
def dashedItems : Nat → Reading → Except Failure (List Nat × Reading)
  | 0, _ => .error .malformed
  | fuel + 1, r =>
    match r.tokens with
    | .blockEntry :: rest => do
      let r := { r with tokens := rest }
      let (item, r) ← if endsDashed rest then pure r.addEmpty else node true false fuel r
      let (items, r) ← dashedItems fuel r
      pure (item :: items, r)
    | _ => .ok ([], r)

def blockEntries : Nat → Reading → Except Failure (List (Nat × Nat) × Reading)
  | 0, _ => .error .malformed
  | fuel + 1, r =>
    match r.tokens with
    | .key :: rest => do
      let r := { r with tokens := rest }
      let (key, r) ← if endsEntry true rest then pure r.addEmpty else node true true fuel r
      let (value, r) ← match r.tokens with
        | .value :: rest =>
          let r := { r with tokens := rest }
          if endsEntry true rest then pure r.addEmpty else node true true fuel r
        | _ => pure r.addEmpty
      let (entries, r) ← blockEntries fuel r
      pure ((key, value) :: entries, r)
    | .blockEnd :: rest => .ok ([], { r with tokens := rest })
    | _ => .error r.refusal

/-- The items of a sequence in brackets; an item with a colon is a mapping of one entry. -/
def flowItems (first : Bool) : Nat → Reading → Except Failure (List Nat × Reading)
  | 0, _ => .error .malformed
  | fuel + 1, r =>
    match first, r.tokens with
    | _, .flowSequenceEnd :: rest => .ok ([], { r with tokens := rest })
    | false, .flowEntry :: rest => flowItem fuel { r with tokens := rest }
    | false, _ => .error r.refusal
    | true, _ => flowItem fuel r

/-- One item of a sequence in brackets, and those after it. -/
def flowItem : Nat → Reading → Except Failure (List Nat × Reading)
  | 0, _ => .error .malformed
  | fuel + 1, r =>
    match r.tokens with
    | .flowSequenceEnd :: rest => .ok ([], { r with tokens := rest })
    | .key :: rest => do
      let (entry, r) ← flowPair fuel { r with tokens := rest }
      let (item, r) := r.add (.mapping .mapping [entry])
      let (items, r) ← flowItems false fuel r
      pure (item :: items, r)
    | _ => do
      let (item, r) ← node false false fuel r
      let (items, r) ← flowItems false fuel r
      pure (item :: items, r)

def flowPair : Nat → Reading → Except Failure ((Nat × Nat) × Reading)
  | 0, _ => .error .malformed
  | fuel + 1, r => do
    let (key, r) ← if endsFlow r.tokens then pure r.addEmpty else node false false fuel r
    match r.tokens with
    | .value :: rest => do
      let r := { r with tokens := rest }
      let (value, r) ← match rest with
        | .value :: _ => node false false fuel r
        | _ => if endsFlow rest then pure r.addEmpty else node false false fuel r
      pure ((key, value), r)
    | _ =>
      let (value, r) := r.addEmpty
      pure ((key, value), r)

def flowEntries (first : Bool) : Nat → Reading → Except Failure (List (Nat × Nat) × Reading)
  | 0, _ => .error .malformed
  | fuel + 1, r =>
    match first, r.tokens with
    | _, .flowMappingEnd :: rest => .ok ([], { r with tokens := rest })
    | false, .flowEntry :: rest => flowEntry fuel { r with tokens := rest }
    | false, _ => .error r.refusal
    | true, _ => flowEntry fuel r

/-- One entry of a mapping in braces, and those after it; without a colon it is a key alone. -/
def flowEntry : Nat → Reading → Except Failure (List (Nat × Nat) × Reading)
  | 0, _ => .error .malformed
  | fuel + 1, r =>
    match r.tokens with
    | .flowMappingEnd :: rest => .ok ([], { r with tokens := rest })
    | .key :: rest => do
      let (entry, r) ← flowPair fuel { r with tokens := rest }
      let (entries, r) ← flowEntries false fuel r
      pure (entry :: entries, r)
    | _ => do
      let (key, r) ← node false false fuel r
      let (value, r) := r.addEmpty
      let (entries, r) ← flowEntries false fuel r
      pure ((key, value) :: entries, r)

end

/-- What the handles of tags stand for unless a document says otherwise. -/
def standardHandles : List (String × String) :=
  [("!", "!"), ("!!", Tag.lead)]

/-- The directives in front of a document: at most one tells the version, whose major number is
one, and no handle is given a meaning twice. -/
def readDirectives (versioned : Bool) (handles : List (String × String)) :
    List Token → Except Failure (List (String × String) × List Token)
  | .directive (.version major) :: rest =>
    if versioned || major != 1 then .error .malformed else readDirectives true handles rest
  | .directive (.handle handle lead) :: rest =>
    if handles.any fun (h, _) => h == handle then .error .malformed
    else readDirectives versioned (handles ++ [(handle, lead)]) rest
  | .directive .other :: rest => readDirectives versioned handles rest
  | rest => .ok (handles, rest)

/-- The content of a document after the line that starts it. -/
def documentContent (fuel : Nat) (r : Reading) : Except Failure (Nat × Reading) :=
  match r.tokens with
  | [] | .directive _ :: _ | .documentStart :: _ | .documentEnd :: _ => .ok r.addEmpty
  | _ => node true false fuel r

/-- The nodes of a whole row of tokens and the place of the root, none if there is no document. -/
def ofTokens? (tokens : List Token) : Except Failure (Option (Nodes × Nat)) := do
  let fuel := 4 * tokens.length + 8
  let (root, r) ← match tokens with
    | [] => pure (none, ({ tokens := [] } : Reading))
    | .directive _ :: _ | .documentStart :: _ => do
      let (handles, rest) ← readDirectives false [] tokens
      match rest with
      | .documentStart :: rest => do
        let (root, r) ← documentContent fuel
          { tokens := rest, handles := handles ++ standardHandles }
        pure (some root, r)
      | rest => .error ({ tokens := rest } : Reading).refusal
    | _ => do
      let (root, r) ← node true false fuel { tokens, handles := standardHandles }
      pure (some root, r)
  let r := { r with tokens := r.tokens.dropWhile (· == Token.documentEnd) }
  if r.tokens.isEmpty then pure (root.map fun place => (r.nodes, place)) else .error r.refusal

end BurstLoad.Yaml.Node
