import BurstLoad.Yaml.Token.Block
import BurstLoad.Yaml.Token.Quoted

/-!
The row of tokens of a document. Indentation opens and closes block collections. A word may turn
out to be a key only when a colon follows, at most 1024 characters later on the same line; the mark
of the key, and of the mapping that it may open, then goes in front of it.
-/

set_option autoImplicit false

namespace BurstLoad.Yaml.Token

/-- A token that may turn out to be a key: its place in the row, and where it stands. -/
structure Candidate where
  place : Nat
  required : Bool
  index : Nat
  line : Nat
  column : Nat

/-- The tokens so far, and what the next ones depend on. -/
structure Row where
  cursor : Cursor
  tokens : Array Token := #[]
  -- how many flow collections are open
  flow : Nat := 0
  -- the column of the innermost block collection, -1 outside of all
  indent : Int := -1
  outer : List Int := []
  keyAllowed : Bool := true
  -- at most one for each depth of flow collections
  candidates : List (Nat × Candidate) := []
  -- how many tokens stand fast before the next one is looked for
  fast : Nat := 0
  broken : Bool := false

/-- The greatest distance between the start of a key and its colon. -/
def Candidate.maxLength : Nat := 1024

/-- Whether no colon can follow any more where reading has come to. -/
def Candidate.isStale (k : Candidate) (c : Cursor) : Bool :=
  k.line != c.line || Candidate.maxLength < c.index - k.index

namespace Row

def push (r : Row) (t : Token) : Row :=
  { r with tokens := r.tokens.push t }

def pushOver (r : Row) (t : Token) (n : Nat) : Row :=
  { r with tokens := r.tokens.push t, cursor := r.cursor.steps n }

def insert (r : Row) (place : Nat) (t : Token) : Row :=
  { r with tokens := r.tokens.take place ++ #[t] ++ r.tokens.drop place }

/-- Blanks, comments and ends of lines; after an end of a line in block context a key may begin. -/
def skipGaps : Nat → Row → Row
  | 0, r => r
  | fuel + 1, r =>
    let c := r.cursor.skipSpaces.skipComment
    match c.lineBreak? with
    | some (_, c) =>
      skipGaps fuel { r with cursor := c, keyAllowed := r.keyAllowed || r.flow == 0 }
    | none => { r with cursor := c }

/-- Gives up the candidates that cannot be keys any more; a required one must have become one. -/
def dropStale (r : Row) : Except Failure Row :=
  if r.candidates.any fun (_, k) => k.isStale r.cursor && k.required then .error .malformed
  else .ok { r with candidates := r.candidates.filter fun (_, k) => !k.isStale r.cursor }

/-- Gives up the candidate of the current depth; a required one must have become a key. -/
def dropCandidate (r : Row) : Except Failure Row :=
  if r.candidates.any fun (depth, k) => depth == r.flow && k.required then .error .malformed
  else .ok { r with candidates := r.candidates.filter fun (depth, _) => depth != r.flow }

/-- The next token may turn out to be a key, if a key may begin here. -/
def saveCandidate (r : Row) : Except Failure Row :=
  if r.keyAllowed then do
    let c := r.cursor
    let required := r.flow == 0 && r.indent == c.column
    let r ← r.dropCandidate
    pure { r with candidates :=
      (r.flow, ⟨r.tokens.size, required, c.index, c.line, c.column⟩) :: r.candidates }
  else .ok r

/-- Closes the block collections that are indented more than a column. -/
def unwind (r : Row) (column : Int) : Row :=
  if r.flow != 0 then r
  else
    let open' := (r.indent :: r.outer).takeWhile fun i => column < i
    let left := (r.indent :: r.outer).drop open'.length
    { r with
      tokens := r.tokens ++ (Array.replicate open'.length blockEnd)
      indent := left.headD (-1)
      outer := left.tail }

/-- Opens a block collection at a column that is indented more than the current one. -/
def openAt (r : Row) (column : Int) (place : Nat) (t : Token) : Row :=
  if r.indent < column then
    { r.insert place t with indent := column, outer := r.indent :: r.outer }
  else r

/-- In block context a collection opens here, if one may. -/
def openHere (r : Row) (t : Token) : Except Failure Row :=
  if r.flow != 0 then .ok r
  else if !r.keyAllowed then .error .malformed
  else .ok (r.openAt r.cursor.column r.tokens.size t)

/-- The end of the document: all block collections close. -/
def finish (r : Row) : Except Failure Row :=
  (r.unwind (-1)).dropCandidate

def separator (r : Row) (t : Token) : Except Failure Row := do
  let r ← (r.unwind (-1)).dropCandidate
  pure ({ r with keyAllowed := false }.pushOver t 3)

def directive (r : Row) : Except Failure Row := do
  let r ← (r.unwind (-1)).dropCandidate
  let (t, c) ← readDirective r.cursor
  pure { r.push t with cursor := c, keyAllowed := false }

def openFlow (r : Row) (t : Token) : Except Failure Row := do
  let r ← r.saveCandidate
  pure ({ r with flow := r.flow + 1, keyAllowed := true }.pushOver t 1)

def closeFlow (r : Row) (t : Token) : Except Failure Row := do
  let r ← r.dropCandidate
  if r.flow == 0 then .error .malformed
  else pure ({ r with flow := r.flow - 1, keyAllowed := false }.pushOver t 1)

def flowComma (r : Row) : Except Failure Row := do
  let r ← r.dropCandidate
  pure ({ r with keyAllowed := true }.pushOver flowEntry 1)

def dash (r : Row) : Except Failure Row := do
  let r ← r.openHere blockSequenceStart
  let r ← r.dropCandidate
  pure ({ r with keyAllowed := true }.pushOver blockEntry 1)

def question (r : Row) : Except Failure Row := do
  let r ← r.openHere blockMappingStart
  let r ← r.dropCandidate
  pure ({ r with keyAllowed := r.flow == 0 }.pushOver key 1)

/-- A colon in front of a value: the candidate before it is a key, or the key is empty. -/
def colon (r : Row) : Except Failure Row := do
  match r.candidates.find? fun (depth, _) => depth == r.flow with
  | some (_, k) =>
    let r := { r with
      candidates := r.candidates.filter fun (depth, _) => depth != r.flow
      keyAllowed := false }
    let r := r.insert k.place key
    let r := if r.flow == 0 then r.openAt k.column k.place blockMappingStart else r
    pure (r.pushOver Token.value 1)
  | none =>
    let r ← r.openHere blockMappingStart
    let r := { r with keyAllowed := r.flow == 0 }
    let r ← r.dropCandidate
    pure (r.pushOver Token.value 1)

/-- The name of a node, or a reference to one. -/
def nodeName (r : Row) (token : String → Token) : Except Failure Row := do
  let r ← r.saveCandidate
  let (name, c) ← Token.nodeName r.cursor
  pure { r.push (token name) with cursor := c, keyAllowed := false }

def tag (r : Row) : Except Failure Row := do
  let r ← r.saveCandidate
  let (t, c) ← readTag r.cursor
  pure { r.push t with cursor := c, keyAllowed := false }

def block (r : Row) (folded : Bool) : Except Failure Row := do
  let r ← r.dropCandidate
  let (t, c) ← readBlock folded r.indent r.cursor
  pure { r.push t with cursor := c, keyAllowed := true }

/-- Notes how many tokens stand fast: those in front of the first that may turn out to be a key. -/
def holdFast (r : Row) : Row :=
  { r with fast := r.candidates.foldl (fun place (_, k) =>
      if k.isStale r.cursor then place else min place k.place) r.tokens.size }

/-- Breaks the row off behind the tokens that stand fast. -/
def breakOff (r : Row) (m : Misfit) : Row :=
  { r with tokens := (r.tokens.take r.fast).push (.unreadable m), broken := true }

def quoted (r : Row) (double : Bool) : Except Failure Row := do
  let r ← r.saveCandidate
  match readQuoted double r.cursor with
  | .ok (t, c) => pure { r.push t with cursor := c, keyAllowed := false }
  | .error (.misfit m) => pure (r.breakOff m)
  | .error .malformed => .error .malformed

def plain (r : Row) : Except Failure Row := do
  let r ← r.saveCandidate
  let (t, c, broken) := readPlain (r.flow != 0) (r.indent + 1) r.cursor
  pure { r.push t with cursor := c, keyAllowed := broken }

/-- A character that a plain scalar cannot begin with, unless more of it follows. -/
def isIndicator (c : Char) : Bool :=
  "-?:,[]\x7b\x7d#&*!|>'\"%@`".toList.contains c

/-- The next tokens, which the character here decides. -/
def scan (r : Row) (x : Char) (rest : List Char) : Except Failure Row :=
  let blank := endsToken rest.head?
  let inBlock := r.flow == 0
  let marked := !inBlock || blank
  let lineStart := r.cursor.column == 0
  if lineStart && x == '%' then r.directive
  else if lineStart && x == '-' && r.cursor.atSeparator then r.separator documentStart
  else if lineStart && x == '.' && r.cursor.atSeparator then r.separator documentEnd
  else match x with
    | '[' => r.openFlow flowSequenceStart
    | '{' => r.openFlow flowMappingStart
    | ']' => r.closeFlow flowSequenceEnd
    | '}' => r.closeFlow flowMappingEnd
    | ',' => r.flowComma
    | '*' => r.nodeName reference
    | '&' => r.nodeName anchor
    | '!' => r.tag
    | '\'' => r.quoted false
    | '"' => r.quoted true
    | x =>
      if x == '-' && blank then r.dash
      else if x == '?' && marked then r.question
      else if x == ':' && marked then r.colon
      else if x == '|' && inBlock then r.block false
      else if x == '>' && inBlock then r.block true
      else if isGap x then .error .malformed
      else if !isIndicator x || (!blank && (x == '-' || (inBlock && (x == '?' || x == ':')))) then
        r.plain
      else .error .malformed

/-- Reads tokens up to the end of the document, or to where the row breaks off; each step takes at
least one character. -/
def readAll : Nat → Row → Except Failure Row
  | 0, r => if r.broken then .ok r else .error .malformed
  | fuel + 1, r => if r.broken then .ok r else do
    let r := r.holdFast.skipGaps (r.cursor.rest.length + 1)
    let r ← r.dropStale
    let r := r.unwind r.cursor.column
    match r.cursor.rest with
    | [] => r.finish
    | x :: rest => readAll fuel (← r.scan x rest)

end Row

/-- The place after a byte order mark at the start. -/
def skipMark (s : List Char) : Cursor :=
  match s with
  | x :: rest => if x == byteOrderMark then Cursor.advance ⟨s, 0, 0, 0⟩ x rest else ⟨s, 0, 0, 0⟩
  | [] => ⟨[], 0, 0, 0⟩

def ofText (s : List Char) : Except Failure (List Token) :=
  if s.all isAllowed then do
    let r ← Row.readAll (s.length + 1) { cursor := skipMark s }
    pure r.tokens.toList
  else .error .malformed

end BurstLoad.Yaml.Token
