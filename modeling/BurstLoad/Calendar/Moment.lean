import BurstLoad.Calendar.Date
import BurstLoad.Text.Digit

/-!
Calendar dates and points in time, and their texts: the ISO form, and the form in messages.
-/

set_option autoImplicit false

namespace BurstLoad

/-- A time of day, its offset from UTC in minutes if it has one. -/
structure Clock where
  hour : Nat
  minute : Nat
  second : Nat
  micro : Nat
  offset : Option Int
  deriving Repr, DecidableEq

/-- A calendar date, or a point in time. -/
structure Moment where
  year : Nat
  month : Nat
  day : Nat
  clock : Option Clock
  deriving Repr, DecidableEq

namespace Moment

def pad (width n : Nat) : String :=
  String.ofList (Text.decimalOfWidth width n)

def offsetText (minutes : Int) : String :=
  let n := minutes.natAbs
  (if minutes < 0 then "-" else "+") ++ pad 2 (n / 60) ++ ":" ++ pad 2 (n % 60)

/-- The date, or the date and the time with a separator between them. -/
def write (separator : String) (m : Moment) : String :=
  let date := pad 4 m.year ++ "-" ++ pad 2 m.month ++ "-" ++ pad 2 m.day
  match m.clock with
  | none => date
  | some c =>
    date ++ separator ++ pad 2 c.hour ++ ":" ++ pad 2 c.minute ++ ":" ++ pad 2 c.second ++
      (if c.micro == 0 then "" else "." ++ pad 6 c.micro) ++ (c.offset.map offsetText).getD ""

/-- The date, or the date and the time, in the ISO form. -/
def iso (m : Moment) : String :=
  m.write "T"

def commaJoin (parts : List String) : String :=
  ", ".intercalate parts

def offsetDisplay (minutes : Int) : String :=
  if minutes == 0 then "datetime.timezone.utc"
  else
    let days := minutes.fdiv 1440
    let seconds := 60 * minutes.fmod 1440
    let fields := (if days == 0 then [] else ["days=" ++ toString days]) ++
      (if seconds == 0 then [] else ["seconds=" ++ toString seconds])
    "datetime.timezone(datetime.timedelta(" ++ commaJoin fields ++ "))"

def display (m : Moment) : String :=
  let date := [toString m.year, toString m.month, toString m.day]
  match m.clock with
  | none => "datetime.date(" ++ commaJoin date ++ ")"
  | some c =>
    let time := [toString c.hour, toString c.minute] ++
      (if c.micro != 0 then [toString c.second, toString c.micro]
       else if c.second != 0 then [toString c.second] else [])
    let zone := match c.offset with
      | none => []
      | some o => ["tzinfo=" ++ offsetDisplay o]
    "datetime.datetime(" ++ commaJoin (date ++ time ++ zone) ++ ")"

/-- The microsecond of a point in time, counted from the start of 1970 in its own zone. -/
def micros (m : Moment) (c : Clock) : Int :=
  let days := (⟨m.year, m.month, m.day⟩ : Calendar.Date).toDays
  let seconds := days * 86400 + c.hour * 3600 + c.minute * 60 + c.second
  seconds * 1000000 + c.micro

/-- Whether two are one and the same: dates by the calendar, points in time without a zone by
their clocks, those with one by the instant that they name. -/
def same (m n : Moment) : Bool :=
  match m.clock, n.clock with
  | some c, some d =>
    match c.offset, d.offset with
    | some o, some p => m.micros c - o * 60000000 == n.micros d - p * 60000000
    | _, _ => m == n
  | _, _ => m == n

end Moment

end BurstLoad
