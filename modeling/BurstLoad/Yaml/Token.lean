import BurstLoad.Yaml.Cursor
import BurstLoad.Yaml.Failure

/-!
The tokens of a document, and those that are single words: directives, tags and the names of
nodes.
-/

set_option autoImplicit false

namespace BurstLoad.Yaml

/-- What a document says about itself before its content. -/
inductive Directive where
  | version (major : Nat)
  | handle (handle lead : String)
  | other
  deriving Repr, DecidableEq

/-- A token. The marks that open and close block collections follow from the indentation. -/
inductive Token where
  | directive (d : Directive)
  | documentStart
  | documentEnd
  | blockSequenceStart
  | blockMappingStart
  | blockEnd
  | flowSequenceStart
  | flowSequenceEnd
  | flowMappingStart
  | flowMappingEnd
  | blockEntry
  | flowEntry
  | key
  | value
  | anchor (name : String)
  | reference (name : String)
  -- without a handle the tag stands as it is
  | tag (handle : Option String) (suffix : String)
  | scalar (text : String) (plain : Bool)
  -- the row breaks off at a scalar that cannot be read
  | unreadable (m : Misfit)
  deriving Repr, DecidableEq

namespace Token

/-- The end of the line with a comment in front of it, if any. -/
def restOfLine (c : Cursor) : Except Failure Cursor :=
  let c := c.skipSpaces.skipComment
  match c.lineBreak? with
  | some (_, c) => .ok c
  | none => if c.peek.isNone then .ok c else .error .malformed

/-- A name that is not empty. -/
def word (c : Cursor) : Except Failure (String × Cursor) :=
  match c.span isWordChar with
  | ([], _) => .error .malformed
  | (w, c) => .ok (String.ofList w, c)

/-- The name of a node, after the sign in front of it. -/
def nodeName (c : Cursor) : Except Failure (String × Cursor) := do
  let (name, c) ← word c.step
  let closed := match c.peek with
    | none => true
    | some x => isGap x || "?:,]\x7d%@`".toList.contains x
  if closed then pure (name, c) else .error .malformed

/-- A character of tags, the percent sign of escapes included. -/
def isTagChar (c : Char) : Bool :=
  ('0' ≤ c && c ≤ '9') || ('A' ≤ c && c ≤ 'Z') || ('a' ≤ c && c ≤ 'z') ||
    "-;/?:@&=+$,_.!~*'()[]%".toList.contains c

def hexDigit? (c : Char) : Option Nat :=
  if '0' ≤ c && c ≤ '9' then some (c.toNat - 48)
  else if 'a' ≤ c && c ≤ 'f' then some (c.toNat - 87)
  else if 'A' ≤ c && c ≤ 'F' then some (c.toNat - 55)
  else none

def escapedBytes : List Char → Except Failure (List UInt8 × List Char)
  | '%' :: a :: b :: rest =>
    match hexDigit? a, hexDigit? b with
    | some x, some y => do
      let (bytes, rest) ← escapedBytes rest
      pure (UInt8.ofNat (16 * x + y) :: bytes, rest)
    | _, _ => .error .malformed
  | '%' :: _ => .error .malformed
  | s => .ok ([], s)

def unescapeTag : Nat → List Char → Except Failure (List Char)
  | _, [] => .ok []
  | 0, _ => .error .malformed
  | fuel + 1, '%' :: rest => do
    let (bytes, rest) ← escapedBytes ('%' :: rest)
    match String.fromUTF8? ⟨bytes.toArray⟩ with
    | some s => pure (s.toList ++ (← unescapeTag fuel rest))
    | none => .error .malformed
  | fuel + 1, c :: rest => do pure (c :: (← unescapeTag fuel rest))

/-- The body of a tag, which is not empty. -/
def tagBody (c : Cursor) : Except Failure (String × Cursor) :=
  match c.span isTagChar with
  | ([], _) => .error .malformed
  | (s, c) => do pure (String.ofList (← unescapeTag (s.length + 1) s), c)

/-- A handle: an exclamation mark, or a name between two. -/
def tagHandle (c : Cursor) : Except Failure (String × Cursor) :=
  match c.rest with
  | '!' :: ' ' :: _ => .ok ("!", c.step)
  | '!' :: _ =>
    let (name, after) := c.step.span isWordChar
    if after.peek == some '!' then .ok (String.ofList ('!' :: name ++ ['!']), after.step)
    else .error .malformed
  | _ => .error .malformed

/-- Whether a second exclamation mark comes before the end of the word. -/
def hasHandle (s : List Char) : Bool :=
  (s.takeWhile fun c => c != ' ' && !isBreak c).contains '!'

/-- A tag: in angle brackets as it stands, alone, or behind a handle. -/
def readTag (c : Cursor) : Except Failure (Token × Cursor) := do
  let (t, c) ← match c.rest with
    | '!' :: '<' :: _ => do
      let (suffix, c) ← tagBody (c.steps 2)
      if c.peek == some '>' then pure (Token.tag none suffix, c.step) else .error .malformed
    | '!' :: rest =>
      if endsToken rest.head? then pure (Token.tag none "!", c.step)
      else if hasHandle rest then do
        let (handle, c) ← tagHandle c
        let (suffix, c) ← tagBody c
        pure (Token.tag (some handle) suffix, c)
      else do
        let (suffix, c) ← tagBody c.step
        pure (Token.tag (some "!") suffix, c)
    | _ => .error .malformed
  if endsWord c.peek then pure (t, c) else .error .malformed

def number (c : Cursor) : Except Failure (Nat × Cursor) :=
  match c.span fun x => '0' ≤ x && x ≤ '9' with
  | ([], _) => .error .malformed
  | (ds, c) => .ok (ds.foldl (fun n d => 10 * n + (d.toNat - 48)) 0, c)

def versionDirective (c : Cursor) : Except Failure (Directive × Cursor) := do
  let (major, c) ← number c.skipSpaces
  if c.peek != some '.' then .error .malformed
  else
    let (_, c) ← number c.step
    if endsWord c.peek then pure (.version major, c) else .error .malformed

/-- The value of a directive that gives a handle its meaning. -/
def handleDirective (c : Cursor) : Except Failure (Directive × Cursor) := do
  let (handle, c) ← tagHandle c.skipSpaces
  if c.peek != some ' ' then .error .malformed
  else
    let (lead, c) ← tagBody c.skipSpaces
    if endsWord c.peek then pure (.handle handle lead, c) else .error .malformed

/-- A directive, to the end of its line. -/
def readDirective (c : Cursor) : Except Failure (Token × Cursor) := do
  let (name, c) ← word c.step
  if !endsWord c.peek then .error .malformed
  else
    let (d, c) ← match name with
      | "YAML" => versionDirective c
      | "TAG" => handleDirective c
      | _ => pure (Directive.other, (c.span fun x => !isBreak x).2)
    pure (.directive d, ← restOfLine c)

end Token

end BurstLoad.Yaml
