import BurstLoad.Decimal.Places
import BurstLoad.Value

/-!
Templates of log messages. A conversion starts with a percent sign and ends with a letter; between
them stand the name of a field, flags, a width and a precision, each optional. Two percent signs
next to each other stand for one. Values come from a list in its order, or from named fields.
-/

set_option autoImplicit false

namespace BurstLoad.Text.Template

inductive Failure where
  -- too few or too many values, or a value of a wrong type
  | mismatch
  -- the template is malformed, or a number is none
  | invalid
  -- a number beyond the range
  | range
  -- no such field
  | missing
  -- a text too long for any memory
  | space
  deriving Repr, DecidableEq

inductive Arguments where
  | values (vs : List Value)
  | fields (entries : List (Value × Value))

/-- The values still to be used, and the fields if there are any. -/
structure Supply where
  pending : List Value
  fields : Option (List (Value × Value))

def Arguments.supply : Arguments → Supply
  | .values vs => ⟨vs, none⟩
  | .fields entries => ⟨[.mapping entries], some entries⟩

def Supply.next (s : Supply) : Except Failure (Value × Supply) :=
  match s.pending with
  | v :: rest => .ok (v, { s with pending := rest })
  | [] => .error .mismatch

structure Flags where
  left : Bool := false
  plus : Bool := false
  blank : Bool := false
  alternate : Bool := false
  zero : Bool := false

/-- The flags with one more, if the character is a flag. -/
def Flags.with? (f : Flags) : Char → Option Flags
  | '-' => some { f with left := true }
  | '+' => some { f with plus := true }
  | ' ' => some { f with blank := true }
  | '#' => some { f with alternate := true }
  | '0' => some { f with zero := true }
  | _ => none

def Flags.read (f : Flags) : List Char → Flags × List Char
  | [] => (f, [])
  | c :: rest =>
    match f.with? c with
    | some f => f.read rest
    | none => (f, c :: rest)

/-- The number at the head, zero without digits. -/
def leadingNumber (s : List Char) : Nat × List Char :=
  (digitsValue (s.takeWhile isAsciiDigit), s.dropWhile isAsciiDigit)

def wholeOf? : Value → Option Int
  | .int n => some n
  | .bool b => some (if b then 1 else 0)
  | _ => none

/-- The greatest width and the greatest precision that a conversion can have, the greatest
precision of a whole number, and the length beyond which no memory holds a text. -/
def maxWidth : Nat := 9223372036854775807
def maxPrecision : Nat := 2147483647
def maxDigits : Nat := 2147483644
def maxText : Nat := 1000000000

/-- A width or precision at the head up to a limit, which a star takes from the arguments. -/
def readExtent (limit : Nat) (s : List Char) (supply : Supply) :
    Except Failure (Option Int × List Char × Supply) :=
  match s with
  | '*' :: rest => do
    let (v, supply) ← supply.next
    match wholeOf? v with
    | some n =>
      if n < -(limit : Int) - 1 || (limit : Int) < n then .error .range
      else pure (some n, rest, supply)
    | none => .error .mismatch
  | c :: _ =>
    if isAsciiDigit c then
      let (n, rest) := leadingNumber s
      if limit < n then .error .invalid else .ok (some n, rest, supply)
    else .ok (none, s, supply)
  | [] => .ok (none, [], supply)

/-- The name at the head up to its closing parenthesis. -/
def readName : Nat → List Char → List Char → Except Failure (String × List Char)
  | _, _, [] => .error .invalid
  | depth, acc, ')' :: rest =>
    match depth with
    | 0 => .ok (String.ofList acc.reverse, rest)
    | depth + 1 => readName depth (')' :: acc) rest
  | depth, acc, '(' :: rest => readName (depth + 1) ('(' :: acc) rest
  | depth, acc, c :: rest => readName depth (c :: acc) rest

/-- The supply after a name: the value of the field is the only one pending. -/
def Supply.choose (s : Supply) (name : String) : Except Failure Supply :=
  match s.fields with
  | none => .error .mismatch
  | some entries =>
    let found := entries.find? fun (k, _) =>
      match k with
      | .text t => t == name
      | _ => false
    match found with
    | some (_, v) => .ok { s with pending := [v] }
    | none => .error .missing

/-- A converted value: what stands before the padding zeros, and what after them. -/
structure Piece where
  head : List Char
  body : List Char

/-- A piece filled up to its width. Zeros go between head and body, blanks outside. -/
def Piece.pad (p : Piece) (flags : Flags) (zeros : Bool) (width : Nat) : List Char :=
  let missing := width - (p.head.length + p.body.length)
  if flags.left then p.head ++ p.body ++ List.replicate missing ' '
  else if zeros then p.head ++ List.replicate missing '0' ++ p.body
  else List.replicate missing ' ' ++ p.head ++ p.body

def Flags.sign (f : Flags) (negative : Bool) : List Char :=
  if negative then ['-'] else if f.plus then ['+'] else if f.blank then [' '] else []

/-- A whole number in a base, with at least as many digits as the precision. -/
def wholePiece (flags : Flags) (base : Nat) (mark : List Char) (upper : Bool) (precision : Nat)
    (n : Int) : Piece :=
  let ds := Nat.toDigits base n.natAbs
  let ds := List.replicate (precision - ds.length) '0' ++ ds
  let ds := if upper then ds.map Char.toUpper else ds
  let mark := if flags.alternate then mark else []
  ⟨flags.sign (n < 0) ++ (if upper then mark.map Char.toUpper else mark), ds⟩

/-- A value as a whole number, a fraction cut off. -/
def toWhole (v : Value) : Except Failure Int :=
  match v with
  | .float x =>
    match Decimal.truncate? x with
    | some n => .ok n
    | none => .error (if x.isNaN then .invalid else .range)
  | v =>
    match wholeOf? v with
    | some n => .ok n
    | none => .error .mismatch

def toFloat (v : Value) : Except Failure Float :=
  match v with
  | .float x => .ok x
  | v =>
    match wholeOf? v with
    | some n =>
      match Decimal.ofInt? n with
      | some x => .ok x
      | none => .error .range
    | none => .error .mismatch

/-- A floating-point number in the style of a letter. -/
def floatPiece (flags : Flags) (letter : Char) (precision : Nat) (x : Float) : Piece :=
  let negative := (Decimal.Binary.ofFloat x).negative
  let upper := letter.isUpper
  let body : List Char := match Decimal.dyadic? x with
    | none => (if x.isNaN then "nan" else "inf").toList
    | some (m, q) =>
      let f := Decimal.Fraction.dyadic m.natAbs q
      match letter.toLower with
      | 'e' => f.scientific flags.alternate precision
      | 'f' => f.fixed flags.alternate precision
      | _ => f.general flags.alternate precision
  ⟨flags.sign (negative && !x.isNaN), if upper then body.map Char.toUpper else body⟩

def asciiDisplay (v : Value) : List Char :=
  v.display.toList.flatMap fun c => if c.toNat < 0x80 then [c] else codeEscape (code c)

def toCharacter (v : Value) : Except Failure (List Char) :=
  match v with
  | .text s => if s.length = 1 then .ok s.toList else .error .mismatch
  | v =>
    match wholeOf? v with
    | some n => if 0 ≤ n && n < 0x110000 then .ok [ofCode n.toNat] else .error .range
    | none => .error .mismatch

/-- A value as a whole number that nothing is cut off from. -/
def toExact (v : Value) : Except Failure Int :=
  match wholeOf? v with
  | some n => .ok n
  | none => .error .mismatch

/-- A text as a piece, cut to the precision. -/
def textPiece (precision : Option Nat) (s : List Char) : Piece :=
  ⟨[], match precision with
    | some p => s.take p
    | none => s⟩

def piece (flags : Flags) (precision : Option Nat) (letter : Char) (v : Value) :
    Except Failure Piece :=
  let whole (base : Nat) (mark : String) (n : Int) : Except Failure Piece :=
    let digits := precision.getD 0
    if maxDigits < digits then .error .range
    else if maxText < digits then .error .space
    else .ok (wholePiece flags base mark.toList letter.isUpper digits n)
  match letter with
  | 's' => .ok (textPiece precision v.plain.toList)
  | 'r' => .ok (textPiece precision v.display.toList)
  | 'a' => .ok (textPiece precision (asciiDisplay v))
  | 'c' => do pure ⟨[], ← toCharacter v⟩
  | 'd' | 'i' | 'u' => do whole 10 "" (← toWhole v)
  | 'o' => do whole 8 "0o" (← toExact v)
  | 'x' | 'X' => do whole 16 "0x" (← toExact v)
  | 'e' | 'E' | 'f' | 'F' | 'g' | 'G' => do
    let x ← toFloat v
    let digits := precision.getD 6
    if maxText < digits then .error .space else pure (floatPiece flags letter digits x)
  | _ => .error .invalid

/-- Whether a letter is one of a number, which may be filled up with zeros. -/
def isNumeric (letter : Char) : Bool :=
  "diuoxXeEfFgG".toList.contains letter

def convert (flags : Flags) (width : Nat) (precision : Option Nat) (letter : Char) (v : Value) :
    Except Failure (List Char) := do
  let p ← piece flags precision letter v
  if maxText < width then .error .space
  else pure (p.pad flags (flags.zero && isNumeric letter) width)

/-- The width that a number asks for; there is none for the least of all numbers. -/
def widthOf (n : Int) : Nat :=
  if maxWidth < n.natAbs then 0 else n.natAbs

/-- What follows the percent sign of a conversion: the converted text and the rest. -/
def conversion (s : List Char) (supply : Supply) :
    Except Failure (List Char × List Char × Supply) := do
  let (s, supply) ← match s with
    | '(' :: rest => do
      if supply.fields.isNone then .error .mismatch
      else
        let (name, rest) ← readName 0 [] rest
        pure (rest, ← supply.choose name)
    | s => pure (s, supply)
  let (flags, s) := Flags.read {} s
  let (width, s, supply) ← readExtent maxWidth s supply
  let flags := if width.getD 0 < 0 then { flags with left := true } else flags
  let (precision, s, supply) ← match s with
    | '.' :: rest => do
      let (p, rest, supply) ← readExtent maxPrecision rest supply
      pure (some (p.getD 0).toNat, rest, supply)
    | s => pure (none, s, supply)
  let s := match s with
    | 'h' :: rest | 'l' :: rest | 'L' :: rest => rest
    | s => s
  match s with
  | [] => .error .invalid
  | letter :: rest =>
    let (v, supply) ← supply.next
    pure (← convert flags (widthOf (width.getD 0)) precision letter v, rest, supply)

/-- The filled template; values of a list must all be used. -/
def fillFrom : Nat → List Char → Supply → Except Failure (List Char)
  | _, [], supply =>
    if supply.fields.isNone && !supply.pending.isEmpty then .error .mismatch else .ok []
  | 0, _, _ => .error .invalid
  | fuel + 1, '%' :: '%' :: rest, supply => do pure ('%' :: (← fillFrom fuel rest supply))
  | fuel + 1, '%' :: rest, supply => do
    let (text, rest, supply) ← conversion rest supply
    pure (text ++ (← fillFrom fuel rest supply))
  | fuel + 1, c :: rest, supply => do pure (c :: (← fillFrom fuel rest supply))

def fill (template : String) (arguments : Arguments) : Except Failure String :=
  let s := template.toList
  (fillFrom (s.length + 1) s arguments.supply).map String.ofList

end BurstLoad.Text.Template
