import BurstLoad.Yaml.Token

/-!
Plain scalars, which have no quotes. Inside flow collections they end at brackets and commas;
they may go on over lines that are indented enough, and a single end of a line reads as a space.
-/

set_option autoImplicit false

namespace BurstLoad.Yaml.Token

/-- The length of a run without blanks that belongs to a plain scalar. A colon belongs to it
unless a blank follows, or inside flow collections an indicator. -/
def plainRun (inFlow : Bool) : List Char → Nat
  | [] => 0
  | c :: rest =>
    let colonEnds := match rest.head? with
      | none => true
      | some d => isGap d || (inFlow && ",[]\x7b\x7d".toList.contains d)
    if isGap c || (c == ':' && colonEnds) || (inFlow && ",?[]\x7b\x7d".toList.contains c) then 0
    else plainRun inFlow rest + 1

/-- Ends of lines with the spaces in front of and between them. Reading stops in front of a line
that separates documents, and then gives nothing. -/
def plainBreaks : Nat → List Char → Cursor → Option (List Char) × Cursor
  | 0, acc, c => (some acc.reverse, c)
  | fuel + 1, acc, c =>
    if c.peek == some ' ' then plainBreaks fuel acc c.step
    else match c.lineBreak? with
      | none => (some acc.reverse, c)
      | some (b, c) => if c.atSeparator then (none, c) else plainBreaks fuel (b :: acc) c

/-- The first end of a line joined with those after it: a line feed alone reads as a space, and
before others as nothing. -/
def foldBreaks (first : Char) (more : List Char) : List Char :=
  if first != '\n' then first :: more
  else if more.isEmpty then [' ']
  else more

/-- What stands between two runs of a plain scalar, and whether a line ends in it. -/
def plainGap (c : Cursor) : List Char × Cursor × Bool :=
  let (spaces, c) := c.span (· == ' ')
  match c.lineBreak? with
  | none => (spaces, c, false)
  | some (first, c) =>
    if c.atSeparator then ([], c, true)
    else match plainBreaks c.rest.length [] c with
      | (none, c) => ([], c, true)
      | (some more, c) => (foldBreaks first more, c, true)

/-- A plain scalar from its first run on: its text, the place after it and the gap behind it, and
whether a line ends in that gap. -/
def plainFrom (inFlow : Bool) (indent : Int) : Nat → List Char → List Char → Bool → Cursor →
    List Char × Cursor × Bool
  | 0, acc, _, broken, c => (acc, c, broken)
  | fuel + 1, acc, gap, broken, c =>
    let length := if c.peek == some '#' then 0 else plainRun inFlow c.rest
    if length == 0 then (acc, c, broken)
    else
      let acc := acc ++ gap ++ c.rest.take length
      let (gap, c, broken) := plainGap (c.steps length)
      if gap.isEmpty || c.peek == some '#' || (!inFlow && c.column < indent) then (acc, c, broken)
      else plainFrom inFlow indent fuel acc gap broken c

/-- A plain scalar; after one that ends with its line a key may begin. -/
def readPlain (inFlow : Bool) (indent : Int) (c : Cursor) : Token × Cursor × Bool :=
  let (text, c, broken) := plainFrom inFlow indent (c.rest.length + 1) [] [] false c
  (.scalar (String.ofList text) true, c, broken)

end BurstLoad.Yaml.Token
