import BurstLoad.Calendar.Pattern
import BurstLoad.Fault
import BurstLoad.Journal
import BurstLoad.Text.Template

/-!
Log records: who says what, how grave it is, and when. A record without arguments is its template
as it stands.
-/

set_option autoImplicit false

namespace BurstLoad.Log

def rankNames : List (String × Int) :=
  [("CRITICAL", 50), ("ERROR", 40), ("WARNING", 30), ("INFO", 20), ("DEBUG", 10), ("NOTSET", 0)]

/-- The name of a rank, which may be a value of any type. -/
def rankName (rank : Value) : String :=
  match rankNames.find? fun p => some p.2 == rank.whole? with
  | some (name, _) => name
  | none => "Level " ++ rank.plain

/-- Other names of ranks, which are accepted but not shown. -/
def rankAliases : List (String × Int) :=
  [("FATAL", 50), ("WARN", 30)]

/-- The capital of a letter, as far as it is an ASCII one. -/
def capital (c : Char) : Char :=
  if c == 'ı' then 'I' else if c == 'ſ' then 'S' else c.toUpper

/-- The rank under a name, in capitals or not. -/
def rankOf? (name : String) : Option Int :=
  let name := name.map capital
  ((rankNames ++ rankAliases).find? fun p => p.1 == name).map Prod.snd

/-- A log record. Its time is given in seconds since the start of 1970, and the milliseconds of
that time once more. The arguments are none, a row of values, or a mapping with named fields. -/
structure Record where
  logger : String
  rank : Value
  level : String
  template : Value
  arguments : Value
  created : Value
  millis : Value
  fault : Option String := none

/-- Why a record has no line. -/
inductive Unwritable where
  | template (failure : Text.Template.Failure)
  -- the time is no number of any type
  | timeless
  -- the time is the sign for no number
  | uncountable
  -- the time is beyond the seconds that a clock counts
  | beyondClock
  -- the time is in a year beyond those that the calendar counts
  | beyondCalendar
  -- the time is in a year that has no four digits, counted in 32 bits
  | year (n : Int)
  deriving Repr, DecidableEq

/-- The message for a year that has no four digits. -/
def yearMessage (n : Int) : String :=
  "year " ++ toString n ++ " is out of range"

/-- A row of values as the arguments of a record: a single mapping that is not empty gives named
fields. -/
def argumentsOf : List Value → Value
  | [.mapping (e :: es)] => .mapping (e :: es)
  | vs => .tuple vs

namespace Record

def filled (_ : Record) (template : String) (arguments : Text.Template.Arguments) :
    Except Unwritable String :=
  (Text.Template.fill template arguments).mapError .template

def message (r : Record) : Except Unwritable String :=
  match r.arguments with
  | .tuple (v :: vs) => r.filled r.template.plain (.values (v :: vs))
  | .mapping (e :: es) => r.filled r.template.plain (.fields (e :: es))
  | _ => .ok r.template.plain

def order (r : Record) : Int :=
  r.rank.whole?.getD 0

/-- The greatest number of seconds that a clock counts, and the greatest year of the calendar,
counted from 1900. -/
def maxSeconds : Int := 9223372036854775807
def maxYear : Int := 2147483647

/-- A number of seconds, if a clock and the calendar have it. -/
def checked (seconds : Int) : Except Unwritable Calendar.Stamp :=
  let stamp := Calendar.Stamp.ofSeconds seconds
  let year := (Calendar.Date.ofDays stamp.days).year - 1900
  if seconds < -maxSeconds - 1 || maxSeconds < seconds then .error .beyondClock
  else if year < -maxYear - 1 || maxYear < year then .error .beyondCalendar
  else .ok stamp

/-- What a floating-point time that is not finite is. -/
def notFinite (x : Float) : Unwritable :=
  if x.isNaN then .uncountable else .beyondClock

def stamp (r : Record) : Except Unwritable Calendar.Stamp :=
  match r.created with
  | .int n => checked n
  | .bool b => checked (if b then 1 else 0)
  | .float x =>
    match Decimal.floor? x with
    | some n => checked n
    | none => .error (notFinite x)
  | _ => .error .timeless

/-- The whole seconds of a floating-point time and its microseconds, half a one to the even
neighbour. -/
def splitSeconds (x : Float) : Int × Int :=
  let whole := (Decimal.truncate? x).getD 0
  let fraction := x - (Decimal.ofInt? whole).getD 0.0
  let micros := (Decimal.roundEven? (fraction * 1000000.0)).getD 0
  (whole + micros.fdiv 1000000, micros.fmod 1000000)

/-- The time of a record to the microsecond, if it lies in the years from 1 to 9999. -/
def moment (r : Record) : Except Unwritable Moment := do
  let (seconds, micros) ← match r.created with
    | .int n => pure (n, 0)
    | .bool b => pure (if b then 1 else 0, 0)
    | .float x => if x.isFinite then pure (splitSeconds x) else .error (notFinite x)
    | _ => .error .timeless
  let stamp ← checked seconds
  let date := Calendar.Date.ofDays stamp.days
  if 1 ≤ date.year && date.year ≤ 9999 then
    pure {
      year := date.year.toNat
      month := date.month
      day := date.day
      clock := some {
        hour := stamp.second / 3600
        minute := stamp.second / 60 % 60
        second := stamp.second % 60
        micro := micros.toNat
        offset := some 0 } }
  else .error (.year (date.year.bmod 4294967296))

end Record

/-- An error as a log shows it: its kind, the program's own with the place of its definition, and
its text. -/
def faultReport (f : Fault) : String :=
  let kind := (if f.isOwn then "benchclient.exceptions." else "") ++ f.kind
  if f.text == "" then kind else kind ++ ": " ++ f.text

/-- The moment at which virtual time begins, in seconds since the start of 1970. -/
def epoch : Int := 1700000000

def Record.ofTime (logger : String) (rank : Int) (template : Value) (arguments : List Value)
    (time : Time) : Record where
  logger := logger
  rank := .int rank
  level := rankName (.int rank)
  template := template
  arguments := argumentsOf arguments
  created := .float (Decimal.ofRatio (epoch * 1000 + time.rounded) 1000)
  millis := .int (time.rounded.fmod 1000)

def Record.ofEntry (e : Entry) : Record :=
  .ofTime e.notice.part.name e.notice.level.rank (.text e.notice.text) [] e.time

end BurstLoad.Log
