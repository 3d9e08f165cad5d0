import BurstLoad.Bytes
import BurstLoad.Calendar.Moment
import BurstLoad.Decimal.Layout
import BurstLoad.Decimal.Whole
import BurstLoad.Endpoint
import BurstLoad.Text.Quoted

/-!
Values as a configuration gives them, before anything is known of their types: from a file, from
the command line or set by a caller. A value has a text, which messages show. A collection may
contain itself: it is a knot with a label of its own, to which its inside leads back.
-/

set_option autoImplicit false

namespace BurstLoad

inductive Value where
  | null
  | bool (b : Bool)
  | int (n : Int)
  | float (x : Float)
  | text (s : String)
  | bytes (b : Bytes)
  | list (items : List Value)
  | tuple (items : List Value)
  | set (items : List Value)
  | mapping (entries : List (Value × Value))
  | moment (m : Moment)
  | endpoint (e : Endpoint)
  -- a collection that contains itself
  | knot (label : Nat) (v : Value)
  -- the knot with a label, inside of it
  | back (label : Nat)
  deriving Inhabited

namespace Value

mutual

/-- A value with a knot in place of what leads back to it. -/
def fill (label : Nat) (whole : Value) : Value → Value
  | .back l => if l == label then whole else .back l
  | .knot l v => if l == label then .knot l v else .knot l (fill label whole v)
  | .list items => .list (fillAll label whole items)
  | .tuple items => .tuple (fillAll label whole items)
  | .set items => .set (fillAll label whole items)
  | .mapping entries => .mapping (fillEntries label whole entries)
  | v => v

/-- Values with a knot in place of what leads back to it. -/
def fillAll (label : Nat) (whole : Value) : List Value → List Value
  | [] => []
  | v :: vs => fill label whole v :: fillAll label whole vs

/-- Entries with a knot in place of what leads back to it. -/
def fillEntries (label : Nat) (whole : Value) : List (Value × Value) → List (Value × Value)
  | [] => []
  | (k, v) :: rest => (fill label whole k, fill label whole v) :: fillEntries label whole rest

end

/-- A value that is no knot: a knot is opened, so that its parts stand for themselves. -/
def opened : Value → Value
  | .knot label v => fill label (.knot label v) v
  | v => v

def folded : Value → String
  | .mapping _ => "\x7b...\x7d"
  | _ => "[...]"

/-- Texts in parentheses, a single one with a comma after it. -/
def parenthesised (parts : List String) : String :=
  match parts with
  | [part] => "(" ++ part ++ ",)"
  | parts => "(" ++ ", ".intercalate parts ++ ")"

mutual

/-- The text of a value inside of knots, each with what is shown in its place. -/
def displayIn (around : List (Nat × String)) : Value → String
  | .null => "None"
  | .bool b => if b then "True" else "False"
  | .int n => toString n
  | .float x => Decimal.floatText x
  | .text s => Text.quote s
  | .bytes b => Text.quoteBytes b
  | .list items => "[" ++ ", ".intercalate (displayAllIn around items) ++ "]"
  | .tuple items => parenthesised (displayAllIn around items)
  | .set [] => "set()"
  | .set items => "\x7b" ++ ", ".intercalate (displayAllIn around items) ++ "\x7d"
  | .mapping entries => "\x7b" ++ ", ".intercalate (displayEntriesIn around entries) ++ "\x7d"
  | .moment m => m.display
  | .endpoint e => "Endpoint(host=" ++ Text.quote e.host ++ ", port=" ++ toString e.port ++ ")"
  | .knot label v =>
    match around.lookup label with
    | some shown => shown
    | none => v.displayIn ((label, v.folded) :: around)
  | .back label => (around.lookup label).getD ""

def displayAllIn (around : List (Nat × String)) : List Value → List String
  | [] => []
  | v :: vs => v.displayIn around :: displayAllIn around vs

def displayEntriesIn (around : List (Nat × String)) : List (Value × Value) → List String
  | [] => []
  | (k, v) :: rest =>
    (k.displayIn around ++ ": " ++ v.displayIn around) :: displayEntriesIn around rest

end

def display (v : Value) : String :=
  v.displayIn []

/-- Whether a whole number has a text: one of too many digits has none. -/
def isWritable (n : Int) : Bool :=
  n.natAbs < Nat.pow 10 Text.maxDigits

mutual

/-- Whether a value has a text: all numbers in it must have one. -/
def isShowable : Value → Bool
  | .int n => isWritable n
  | .endpoint e => isWritable e.port
  | .list items | .tuple items | .set items => areShowable items
  | .mapping entries => entriesShowable entries
  | .knot _ v => v.isShowable
  | _ => true

def areShowable : List Value → Bool
  | [] => true
  | v :: vs => v.isShowable && areShowable vs

def entriesShowable : List (Value × Value) → Bool
  | [] => true
  | (k, v) :: rest => k.isShowable && v.isShowable && entriesShowable rest

end

/-- The name of a value's type. -/
def typeName : Value → String
  | .null => "NoneType"
  | .bool _ => "bool"
  | .int _ => "int"
  | .float _ => "float"
  | .text _ => "str"
  | .bytes _ => "bytes"
  | .list _ | .back _ => "list"
  | .tuple _ => "tuple"
  | .set _ => "set"
  | .mapping _ => "dict"
  | .moment m => if m.clock.isSome then "datetime.datetime" else "datetime.date"
  | .endpoint _ => "Endpoint"
  | .knot _ v => v.typeName

/-- Values in parentheses, a single one with a comma after it. -/
def displayTuple (vs : List Value) : String :=
  display (.tuple vs)

/-- The text of a value on its own: a text stands without quotes. -/
def plain : Value → String
  | .text s => s
  | .moment m => m.write " "
  | .endpoint e => e.print
  | v => v.display

/-- Whether a value counts as true: all but null, zero and what is empty. -/
def truthy : Value → Bool
  | .null => false
  | .bool b => b
  | .int n => n != 0
  | .float x => !(x == 0.0)
  | .text s => s != ""
  | .bytes b => !b.isEmpty
  | .list items | .tuple items | .set items => !items.isEmpty
  | .mapping entries => !entries.isEmpty
  | .knot _ _ | .back _ | .moment _ | .endpoint _ => true

/-- The whole number that a value equals, true and false as 1 and 0. -/
def whole? : Value → Option Int
  | .int n => some n
  | .bool b => some (if b then 1 else 0)
  | .float x =>
    match Decimal.floor? x, Decimal.ceil? x with
    | some a, some b => if a == b then some a else none
    | _, _ => none
  | _ => none

/-- Null, which stands for a value that was not given. -/
def isNull : Value → Bool
  | .null => true
  | _ => false

end Value

end BurstLoad
