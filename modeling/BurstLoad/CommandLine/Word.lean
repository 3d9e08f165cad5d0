import BurstLoad.CommandLine.Flag
import BurstLoad.Text.Digit

/-!
The words of a command line. A flag may be shortened as long as no other one begins alike, and may
have its value attached by an equals sign. Negative numbers and words with a space in them are
plain, as is everything after two dashes on their own.
-/

set_option autoImplicit false

namespace BurstLoad.CommandLine

inductive Word where
  | plain (text : String)
  | flag (f : Flag) (attached : Option String)
  -- the short form of help with more letters after it
  | helpWith (letters : List Char)
  -- what looks like a flag and is none
  | unknown (text : String)
  -- two dashes, and all that comes after them
  | divided (after : List String)
  deriving Repr, DecidableEq

namespace Word

/-- A text up to its first equals sign, and what follows the sign. -/
def splitAtEquals (cs : List Char) : List Char × Option String :=
  match cs.dropWhile (· != '=') with
  | [] => (cs, none)
  | _ :: rest => (cs.takeWhile (· != '='), some (String.ofList rest))

def isDigits (cs : List Char) : Bool :=
  !cs.isEmpty && cs.all Text.isDecimal

/-- A whole number or one with places after a point, without a sign. -/
def isNumber (cs : List Char) : Bool :=
  isDigits cs || match cs.dropWhile Text.isDecimal with
    | '.' :: places => isDigits places
    | _ => false

/-- A negative number; a line break may end it. -/
def isNegative (cs : List Char) : Bool :=
  match cs with
  | '-' :: rest => isNumber (if rest.getLast? == some '\n' then rest.dropLast else rest)
  | _ => false

/-- A word that begins with a dash and is no flag. -/
def unmatched (text : String) : Word :=
  if isNegative text.toList || text.toList.contains ' ' then .plain text else .unknown text

/-- A word of two dashes and more: a flag, if exactly one begins so. -/
def ofShortened (text : String) (start : List Char) (attached : Option String) :
    Except Misuse Word :=
  match Flag.candidates start with
  | [] => .ok (unmatched text)
  | [(_, f)] => .ok (.flag f attached)
  | several => .error (.ambiguous text (several.map Prod.fst))

/-- A word with an attached value, or one that is no spelling of a flag. -/
def ofAttached (text : String) : Except Misuse Word :=
  let (start, attached) := splitAtEquals text.toList
  match attached, Flag.named? (String.ofList start), text.toList with
  | some value, some f, '-' :: '-' :: _ => .ok (.flag f (some value))
  | some "", some f, _ => .ok (.flag f (some ""))
  | some value, some _, _ => .ok (.helpWith value.toList)
  | _, _, '-' :: '-' :: _ => ofShortened text start attached
  | _, _, '-' :: 'h' :: letters => .ok (.helpWith letters)
  | _, _, _ => .ok (unmatched text)

def read (text : String) : Except Misuse Word :=
  match text.toList with
  | '-' :: rest =>
    match Flag.named? text with
    | some f => .ok (.flag f none)
    | none => if rest.isEmpty then .ok (.plain text) else ofAttached text
  | _ => .ok (.plain text)

/-- Reads all words, up to two dashes on their own. -/
def readAll : List String → Except Misuse (List Word)
  | [] => .ok []
  | text :: rest =>
    if text == "--" then .ok [.divided rest]
    else do
      let word ← read text
      pure (word :: (← readAll rest))

end Word

end BurstLoad.CommandLine
