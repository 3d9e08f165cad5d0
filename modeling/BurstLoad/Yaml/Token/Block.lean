import BurstLoad.Yaml.Token

/-!
Block scalars. Their lines are indented; literal ones keep the ends of their lines, folded ones
join lines by spaces. A sign after the indicator tells what happens to the end of the last line.
-/

set_option autoImplicit false

namespace BurstLoad.Yaml.Token

/-- What happens to the ends of lines at the end of the scalar. -/
inductive Chomping where
  | keep
  | clip
  | strip
  deriving Repr, DecidableEq

def chomping? : Char → Option Chomping
  | '+' => some .keep
  | '-' => some .strip
  | _ => none

/-- The sign and the indentation after the indicator, in either order. -/
def blockHeader (c : Cursor) : Except Failure ((Chomping × Option Nat) × Cursor) := do
  let sign (c : Cursor) := match c.peek.bind chomping? with
    | some chomping => (some chomping, c.step)
    | none => (none, c)
  let digit (c : Cursor) : Except Failure (Option Nat × Cursor) := match c.peek with
    | some x =>
      if x == '0' then .error .malformed
      else if '1' ≤ x && x ≤ '9' then .ok (some (x.toNat - 48), c.step)
      else .ok (none, c)
    | none => .ok (none, c)
  let (before, c) := sign c
  let (width, c) ← digit c
  let (chomping, c) := if before.isSome || width.isNone then (before, c) else sign c
  if endsWord c.peek then pure ((chomping.getD .clip, width), c) else .error .malformed

/-- Leading empty lines, and the greatest column that spaces reach in them or in front of the first
line. -/
def blockLead : Nat → List Char → Nat → Cursor → List Char × Nat × Cursor
  | 0, acc, widest, c => (acc.reverse, widest, c)
  | fuel + 1, acc, widest, c =>
    if c.peek == some ' ' then blockLead fuel acc (max widest c.step.column) c.step
    else match c.lineBreak? with
      | some (b, c) => blockLead fuel (b :: acc) widest c
      | none => (acc.reverse, widest, c)

/-- The place after the spaces that belong to the indentation. -/
def skipIndent (indent : Int) : Nat → Cursor → Cursor
  | 0, c => c
  | fuel + 1, c =>
    if c.column < indent && c.peek == some ' ' then skipIndent indent fuel c.step else c

def blockBreaks (indent : Int) : Nat → List Char → Cursor → List Char × Cursor
  | 0, acc, c => (acc.reverse, c)
  | fuel + 1, acc, c =>
    let c := skipIndent indent c.rest.length c
    match c.lineBreak? with
    | some (b, c) => blockBreaks indent fuel (b :: acc) c
    | none => (acc.reverse, c)

/-- Whether a line that begins with this character keeps the end of the line before it. -/
def isIndentedMore (x : Option Char) : Bool :=
  match x with
  | some x => isSpace x
  | none => false

/-- What joins two lines: a folded end of a line reads as a space if no empty line follows and
neither line is indented more. -/
def blockJoin (folded : Bool) (lineEnd : Option Char) (more : List Char) (plainLines : Bool) :
    List Char :=
  if folded && lineEnd == some '\n' && plainLines then
    if more.isEmpty then [' '] else []
  else lineEnd.toList

/-- The lines of a block scalar from one that is indented as it should be: the text, the end of
the last line, and the empty lines after it. -/
def blockLines (folded : Bool) (indent : Int) : Nat → List Char → List Char → Option Char →
    Cursor → List Char × Option Char × List Char × Cursor
  | 0, acc, more, lineEnd, c => (acc, lineEnd, more, c)
  | fuel + 1, acc, more, lineEnd, c =>
    if c.column == indent && c.peek.isSome then
      let acc := acc ++ more
      let first := c.peek
      let (text, c) := c.span fun x => !isBreak x
      let acc := acc ++ text
      let (lineEnd, c) := match c.lineBreak? with
        | some (b, c) => (some b, c)
        | none => (none, c)
      let (more, c) := blockBreaks indent (c.rest.length + 1) [] c
      if c.column == indent && c.peek.isSome then
        let plainLines := !isIndentedMore first && !isIndentedMore c.peek
        blockLines folded indent fuel (acc ++ blockJoin folded lineEnd more plainLines) more
          lineEnd c
      else (acc, lineEnd, more, c)
    else (acc, lineEnd, more, c)

/-- A block scalar; `indent` is the indentation of the collection around it. -/
def readBlock (folded : Bool) (indent : Int) (c : Cursor) : Except Failure (Token × Cursor) := do
  let ((chomping, width), c) ← blockHeader c.step
  let c ← restOfLine c
  let least := max (indent + 1) 1
  let (more, indent, c) := match width with
    | some n =>
      let indent := least + n - 1
      let (more, c) := blockBreaks indent (c.rest.length + 1) [] c
      (more, indent, c)
    | none =>
      let (more, widest, c) := blockLead c.rest.length [] 0 c
      (more, max least widest, c)
  let (text, lineEnd, more, c) := blockLines folded indent (c.rest.length + 1) [] more none c
  let text := match chomping with
    | .strip => text
    | .clip => text ++ lineEnd.toList
    | .keep => text ++ lineEnd.toList ++ more
  pure (.scalar (String.ofList text) false, c)

end BurstLoad.Yaml.Token
