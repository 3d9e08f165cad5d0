import BurstLoad.Decimal.Places
import BurstLoad.Decimal.Whole
import BurstLoad.Text.Base64
import BurstLoad.Text.Blank
import BurstLoad.Text.Numeral
import BurstLoad.Yaml.Tag
import BurstLoad.Yaml.Timestamp

/-!
Scalars and their types. The form of a plain scalar decides what it is; a tag may ask for another
reading, which can fail.
-/

set_option autoImplicit false

namespace BurstLoad.Yaml.Scalar

/-! ### Forms of plain scalars -/

def nullWords : List String := ["", "~", "null", "Null", "NULL"]

def truthWords : List String := [
  "yes", "Yes", "YES", "no", "No", "NO", "true", "True", "TRUE", "false", "False", "FALSE",
  "on", "On", "ON", "off", "Off", "OFF"]

/-- A digit, or the underscore that may stand between digits. -/
def isDigitChar (c : Char) : Bool :=
  Text.isAsciiDigit c || c == '_'

/-- A text without one sign at its head. -/
def dropSign : List Char → List Char
  | '+' :: s => s
  | '-' :: s => s
  | s => s

/-- A row of characters that is not empty and satisfies a condition throughout. -/
def isRun (p : Char → Bool) (s : List Char) : Bool :=
  !s.isEmpty && s.all p

/-- A part of a number to the base sixty, after the first. -/
def isSixtieth (s : List Char) : Bool :=
  match s with
  | [a] => Text.isAsciiDigit a
  | [a, b] => '0' ≤ a && a ≤ '5' && Text.isAsciiDigit b
  | _ => false

def colonParts (s : List Char) : List (List Char) :=
  (s.splitOn ':')

/-- A row of digits that does not begin with a zero. -/
def isCount (s : List Char) : Bool :=
  match s with
  | c :: rest => '1' ≤ c && c ≤ '9' && rest.all isDigitChar
  | [] => false

/-- The form of a whole number: binary, octal, hexadecimal, decimal or to the base sixty. -/
def isWhole (s : List Char) : Bool :=
  match dropSign s with
  | ['0'] => true
  | '0' :: 'b' :: ds => isRun (fun c => c == '0' || c == '1' || c == '_') ds
  | '0' :: 'x' :: ds => isRun (fun c => (Text.hexValue? c).isSome || c == '_') ds
  | '0' :: ds => isRun (fun c => ('0' ≤ c && c ≤ '7') || c == '_') ds
  | s =>
    match colonParts s with
    | [ds] => isCount ds
    | ds :: more => isCount ds && more.all isSixtieth
    | [] => false

/-- An exponent with its sign, or nothing. -/
def isExponent (s : List Char) : Bool :=
  match s with
  | [] => true
  | e :: sign :: ds =>
    (e == 'e' || e == 'E') && (sign == '+' || sign == '-') && isRun Text.isAsciiDigit ds
  | _ => false

def isDigits (s : List Char) : Bool :=
  match s with
  | c :: rest => Text.isAsciiDigit c && rest.all isDigitChar
  | [] => false

/-- The form of what follows the point of a number with a point. -/
def isFraction (s : List Char) : Bool :=
  isExponent (s.dropWhile isDigitChar)

/-- The form of a number with a point: decimal, to the base sixty, infinite or no number. -/
def isFloat (s : List Char) : Bool :=
  let unsigned := dropSign s
  let whole := unsigned.takeWhile (· != '.')
  match unsigned.drop whole.length with
  | '.' :: after =>
    if whole.isEmpty then
      ["inf".toList, "Inf".toList, "INF".toList].contains after ||
        (s.head? == some '.' &&
          (["nan".toList, "NaN".toList, "NAN".toList].contains after ||
            (isDigits (after.takeWhile isDigitChar) && isFraction after)))
    else match colonParts whole with
      | [ds] => isDigits ds && isFraction after
      | ds :: more => isDigits ds && more.all isSixtieth && after.all isDigitChar
      | [] => false
  | _ => false

/-- A text without the line feed at its end, if there is one. -/
def dropFeed (s : List Char) : List Char :=
  if s.getLast? == some '\n' then s.dropLast else s

/-- The type of a plain scalar. A line feed at its end does not count. -/
def tagOf (text : String) : Tag :=
  let s := dropFeed text.toList
  let word := String.ofList s
  if text == "\n" then .text
  else if truthWords.contains word then .truth
  else if isFloat s then .float
  else if isWhole s then .whole
  else if word == "<<" then .merge
  else if nullWords.contains word then .null
  else if Timestamp.isPlain s then .timestamp
  else if word == "=" then .default
  else if ["!", "&", "*"].contains word then .unknown word
  else .text

/-! ### Readings -/

/-- The whole number that a text writes in a base; a mark of the same base may stand in front. -/
def readBase (base : Nat) (mark : Option Char) (s : List Char) : Except Misfit Int :=
  let s := Text.trimNumeral s
  let digits := match dropSign s with
    | '0' :: m :: rest => if mark == some m.toLower then rest else '0' :: m :: rest
    | ds => ds
  let value? (c : Char) : Option Nat :=
    match Text.digitValue? c with
    | some d => if d < base then some d else none
    | none => (Text.hexValue? c).bind fun d => if d < base then some d else none
  match digits.mapM value? with
  | none => .error .number
  | some ds =>
    if ds.isEmpty || (base == 10 && Text.maxDigits < ds.length) then .error .number
    else
      let n : Int := (ds.foldl (fun n d => base * n + d) 0 : Nat)
      .ok (if s.head? == some '-' then -n else n)

/-- The whole number that a text writes in the base ten. -/
def readDecimal (s : List Char) : Except Misfit Int :=
  readBase 10 none s

/-- The sign of a number and what follows it; nothing may not be left. -/
def splitSign (s : List Char) : Except Misfit (Int × List Char) :=
  match s with
  | [] => .error .empty
  | '-' :: rest => .ok (-1, rest)
  | '+' :: rest => .ok (1, rest)
  | s => .ok (1, s)

def readWhole (text : String) : Except Misfit Int := do
  let (sign, s) ← splitSign (text.toList.filter (· != '_'))
  match s with
  | [] => .error .empty
  | ['0'] => pure 0
  | '0' :: 'b' :: rest => return sign * (← readBase 2 (some 'b') rest)
  | '0' :: 'x' :: rest => return sign * (← readBase 16 (some 'x') rest)
  | '0' :: _ => return sign * (← readBase 8 (some 'o') s)
  | s =>
    if s.contains ':' then
      let parts ← (colonParts s).mapM readDecimal
      return sign * parts.foldl (fun n d => 60 * n + d) 0
    else return sign * (← readDecimal s)

def readExponent (s : List Char) : Except Misfit Int :=
  match s with
  | [] => .ok 0
  | _ :: s =>
    let ds := dropSign s
    if isRun Text.isDecimal ds then
      let n : Int := Text.digitsValue ((ds.dropWhile fun d => Text.digitValue? d == some 0).take 18)
      .ok (if s.head? == some '-' then -n else n)
    else .error .number

/-- The floating-point number that a text writes, without underscores and in small letters. -/
def readDecimalFloat (s : List Char) : Except Misfit Float := do
  let s := Text.trimNumeral s
  let negative := s.head? == some '-'
  let body := dropSign s
  let x ← if body == "inf".toList || body == "infinity".toList then pure (1.0 / 0.0)
    else if body == "nan".toList then pure (0.0 / 0.0)
    else
      let mantissa := body.takeWhile (· != 'e')
      let exponent ← readExponent (body.drop mantissa.length)
      let whole := mantissa.takeWhile (· != '.')
      let fraction := (mantissa.drop whole.length).drop 1
      if isRun Text.isDecimal (whole ++ fraction) then
        pure (Decimal.read (Text.digitsValue (whole ++ fraction)) (exponent - fraction.length))
      else .error .number
  pure (if negative then -x else x)

/-- The value of the parts of a number to the base sixty, the last one first. The powers of the
base are exact, and each has to be in range as a floating-point number. -/
def sumSixtieths : List Float → Nat → Float → Except Misfit Float
  | [], _, sum => .ok sum
  | x :: rest, power, sum =>
    match Decimal.ofInt? power with
    | some y => sumSixtieths rest (60 * power) (sum + x * y)
    | none => .error .range

def readFloat (text : String) : Except Misfit Float := do
  let (sign, s) ← splitSign ((text.toList.filter (· != '_')).map Char.toLower)
  let x ← if s == ".inf".toList then pure (1.0 / 0.0)
    else if s == ".nan".toList then pure (0.0 / 0.0)
    else if s.contains ':' then do
      let parts ← (colonParts s).mapM readDecimalFloat
      sumSixtieths parts.reverse 1 0.0
    else readDecimalFloat s
  pure (if sign < 0 then -x else x)

def readTruth (text : String) : Except Misfit Bool :=
  match text.toLower with
  | "yes" | "true" | "on" => .ok true
  | "no" | "false" | "off" => .ok false
  | _ => .error .truth

def read (tag : Tag) (text : String) : Except Failure Value :=
  let orMisfit {α : Type} (wrap : α → Value) (r : Except Misfit α) : Except Failure Value :=
    match r with
    | .ok x => .ok (wrap x)
    | .error m => .error (.misfit m)
  match tag with
  | .null => .ok .null
  | .truth => orMisfit .bool (readTruth text)
  | .whole => orMisfit .int (readWhole text)
  | .float => orMisfit .float (readFloat text)
  | .timestamp => orMisfit .moment (Timestamp.read (dropFeed text.toList))
  | .binary =>
    match Text.Base64.decode? text.toList with
    | some b => .ok (.bytes b)
    | none => .error .malformed
  | .text => .ok (.text text)
  | .sequence | .mapping | .set | .ordered | .pairs | .merge | .default | .unknown _ =>
    .error .malformed

/-- Whether a scalar writes the one value that is no number; any other way to write it gives a
value of its own. -/
def isNoNumber (text : String) : Bool :=
  match splitSign ((text.toList.filter (· != '_')).map Char.toLower) with
  | .ok (_, s) => s == ".nan".toList
  | .error _ => false

end BurstLoad.Yaml.Scalar
