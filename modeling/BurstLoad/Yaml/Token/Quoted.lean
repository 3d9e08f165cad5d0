import BurstLoad.Text.Surrogate
import BurstLoad.Yaml.Token.Plain

/-!
Scalars in quotes. Between single quotes only the quote itself is special and is written twice;
between double quotes a backslash starts an escape. Ends of lines read as in plain scalars.
-/

set_option autoImplicit false

namespace BurstLoad.Yaml.Token

/-- The character that a single letter after a backslash stands for. -/
def escapeOf? : Char → Option Char
  | '0' => some '\x00'
  | 'a' => some '\x07'
  | 'b' => some '\x08'
  | 't' | '\t' => some '\t'
  | 'n' => some '\n'
  | 'v' => some '\x0b'
  | 'f' => some '\x0c'
  | 'r' => some '\r'
  | 'e' => some '\x1b'
  | ' ' => some ' '
  | '"' => some '"'
  | '\\' => some '\\'
  | '/' => some '/'
  | 'N' => some '\x85'
  | '_' => some '\xa0'
  | 'L' => some '\u2028'
  | 'P' => some '\u2029'
  | _ => none

/-- The number of hexadecimal digits after a letter. -/
def escapeWidth? : Char → Option Nat
  | 'x' => some 2
  | 'u' => some 4
  | 'U' => some 8
  | _ => none

/-- The character with the code that a number of hexadecimal digits write. -/
def codeEscape (c : Cursor) (width : Nat) : Except Failure (Char × Cursor) :=
  match (c.rest.take width).mapM hexDigit? with
  | none => .error .malformed
  | some ds =>
    if ds.length < width then .error .malformed
    else
      let code := ds.foldl (fun n d => 16 * n + d) 0
      if code < 0x110000 then .ok (Text.ofCode code, c.steps width)
      else .error (.misfit (if code < 0x80000000 then .number else .range))

/-- Ends of lines and the blanks around them; a line that separates documents is not allowed. -/
def quotedBreaks : Nat → List Char → Cursor → Except Failure (List Char × Cursor)
  | 0, _, _ => .error .malformed
  | fuel + 1, acc, c =>
    if c.atSeparator then .error .malformed
    else
      let (_, c) := c.span isSpace
      match c.lineBreak? with
      | some (b, c) => quotedBreaks fuel (b :: acc) c
      | none => .ok (acc.reverse, c)

/-- Blanks inside quotes, which are kept within a line and dropped around its end. -/
def quotedGap (c : Cursor) : Except Failure (List Char × Cursor) :=
  let (spaces, c) := c.span isSpace
  match c.lineBreak? with
  | none => if c.peek.isNone then .error .malformed else .ok (spaces, c)
  | some (first, c) => do
    let (more, c) ← quotedBreaks (c.rest.length + 1) [] c
    pure (foldBreaks first more, c)

/-- An escape, after its backslash. -/
def quotedEscape (c : Cursor) : Except Failure (List Char × Cursor) :=
  match c.peek with
  | none => .error .malformed
  | some x =>
    match escapeOf? x, escapeWidth? x with
    | some y, _ => .ok ([y], c.step)
    | none, some width => do
      let (y, c) ← codeEscape c.step width
      pure ([y], c)
    | none, none =>
      match c.lineBreak? with
      | some (_, c) => quotedBreaks (c.rest.length + 1) [] c
      | none => .error .malformed

/-- A scalar in quotes, after its first quote. -/
def quotedFrom (double : Bool) : Nat → List Char → Cursor → Except Failure (List Char × Cursor)
  | 0, _, _ => .error .malformed
  | fuel + 1, acc, c =>
    match c.rest with
    | [] => .error .malformed
    | '\'' :: next =>
      if double then quotedFrom double fuel ('\'' :: acc) c.step
      else if next.head? == some '\'' then quotedFrom double fuel ('\'' :: acc) (c.steps 2)
      else .ok (acc.reverse, c.step)
    | '"' :: _ =>
      if double then .ok (acc.reverse, c.step) else quotedFrom double fuel ('"' :: acc) c.step
    | '\\' :: _ =>
      if double then do
        let (text, c) ← quotedEscape c.step
        quotedFrom double fuel (text.reverse ++ acc) c
      else quotedFrom double fuel ('\\' :: acc) c.step
    | x :: _ =>
      if isGap x then do
        let (text, c) ← quotedGap c
        quotedFrom double fuel (text.reverse ++ acc) c
      else quotedFrom double fuel (x :: acc) c.step

def readQuoted (double : Bool) (c : Cursor) : Except Failure (Token × Cursor) := do
  let (text, c) ← quotedFrom double (c.rest.length + 1) [] c.step
  pure (.scalar (String.ofList text) false, c)

end BurstLoad.Yaml.Token
