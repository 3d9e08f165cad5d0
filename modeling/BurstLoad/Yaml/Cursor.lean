/-!
Documents as rows of characters, and places in them. A document holds printable characters only;
lines end in a line feed, a next-line control or one of the two separators for lines.
-/

set_option autoImplicit false

namespace BurstLoad.Yaml

def isAllowed (c : Char) : Bool :=
  let n := c.toNat
  n == 0x09 || n == 0x0A || n == 0x0D || (0x20 ≤ n && n ≤ 0x7E) || n == 0x85 ||
  (0xA0 ≤ n && n ≤ 0xD7FF) || (0xE000 ≤ n && n ≤ 0xFFFD) || 0x10000 ≤ n

/-- The mark at the start of a file that tells its encoding. -/
def byteOrderMark : Char := Char.ofNat 0xFEFF

/-- A text with every end of a line as a single line feed. -/
def unifyLines : List Char → List Char
  | '\r' :: '\n' :: rest => '\n' :: unifyLines rest
  | '\r' :: rest => '\n' :: unifyLines rest
  | c :: rest => c :: unifyLines rest
  | [] => []

def isBreak (c : Char) : Bool :=
  c == '\n' || c == '\x85' || c == '\u2028' || c == '\u2029'

def isSpace (c : Char) : Bool :=
  c == ' ' || c == '\t'

def isGap (c : Char) : Bool :=
  isSpace c || isBreak c

/-- The end of the document or of a line, or a space. -/
def endsWord : Option Char → Bool
  | none => true
  | some c => c == ' ' || isBreak c

/-- The end of the document or of a line, or a blank. -/
def endsToken : Option Char → Bool
  | none => true
  | some c => isGap c

def isWordChar (c : Char) : Bool :=
  ('0' ≤ c && c ≤ '9') || ('A' ≤ c && c ≤ 'Z') || ('a' ≤ c && c ≤ 'z') || c == '-' || c == '_'

/-- A place in a document: what follows it, and where it lies. -/
structure Cursor where
  rest : List Char
  index : Nat := 0
  line : Nat := 0
  column : Nat := 0

namespace Cursor

def peek (c : Cursor) : Option Char :=
  c.rest.head?

/-- The place after a character. -/
def advance (c : Cursor) (x : Char) (rest : List Char) : Cursor :=
  if isBreak x then ⟨rest, c.index + 1, c.line + 1, 0⟩
  else ⟨rest, c.index + 1, c.line, if x == byteOrderMark then c.column else c.column + 1⟩

def step (c : Cursor) : Cursor :=
  match c.rest with
  | [] => c
  | x :: rest => c.advance x rest

def steps (c : Cursor) : Nat → Cursor
  | 0 => c
  | n + 1 => c.step.steps n

/-- The characters up to the first that does not satisfy a condition, and the place of that. -/
def span (c : Cursor) (p : Char → Bool) : List Char × Cursor :=
  let run := c.rest.takeWhile p
  (run, c.steps run.length)

/-- The place after all spaces. -/
def skipSpaces (c : Cursor) : Cursor :=
  (c.span (· == ' ')).2

/-- The place after a comment that begins here. -/
def skipComment (c : Cursor) : Cursor :=
  if c.peek == some '#' then (c.span fun x => !isBreak x).2 else c

/-- The end of a line here, written as a line feed or as the separator that it is. -/
def lineBreak? (c : Cursor) : Option (Char × Cursor) :=
  match c.rest with
  | [] => none
  | x :: rest =>
    if isBreak x then some (if x == '\x85' then '\n' else x, c.advance x rest) else none

/-- Whether the document ends here, or another one begins. -/
def atSeparator (c : Cursor) : Bool :=
  match c.rest with
  | '-' :: '-' :: '-' :: rest => endsToken rest.head?
  | '.' :: '.' :: '.' :: rest => endsToken rest.head?
  | _ => false

end Cursor

end BurstLoad.Yaml
