/-!
Dates of the Gregorian calendar, counted in days from the first of January 1970. A year is taken
to begin in March, so that a leap day is its last day; four centuries always have the same length.
-/

set_option autoImplicit false

namespace BurstLoad.Calendar

structure Date where
  year : Int
  month : Nat
  day : Nat
  deriving Repr, DecidableEq

def eraDays : Int := 146097

/-- The date a number of days after the first of January 1970. -/
def Date.ofDays (days : Int) : Date :=
  let shifted := days + 719468
  let era := shifted.fdiv eraDays
  let ofEra := (shifted.fmod eraDays).toNat
  let yearOfEra := (ofEra - ofEra / 1460 + ofEra / 36524 - ofEra / 146096) / 365
  let ofYear := ofEra - (365 * yearOfEra + yearOfEra / 4 - yearOfEra / 100)
  let march := (5 * ofYear + 2) / 153
  let month := if march < 10 then march + 3 else march - 9
  { year := yearOfEra + era * 400 + (if month ≤ 2 then 1 else 0)
    month
    day := ofYear - (153 * march + 2) / 5 + 1 }

/-- The number of days from the first of January 1970 to a date. -/
def Date.toDays (d : Date) : Int :=
  let year := if d.month ≤ 2 then d.year - 1 else d.year
  let era := year.fdiv 400
  let yearOfEra := year - era * 400
  let march : Int := if d.month ≤ 2 then d.month + 9 else d.month - 3
  let ofYear := (153 * march + 2) / 5 + d.day - 1
  era * eraDays + yearOfEra * 365 + yearOfEra / 4 - yearOfEra / 100 + ofYear - 719468

def isLeap (year : Int) : Bool :=
  year.fmod 4 == 0 && (year.fmod 100 != 0 || year.fmod 400 == 0)

/-- The number of days of a month, none if there is no such month. -/
def daysIn (year : Int) (month : Nat) : Nat :=
  match month with
  | 2 => if isLeap year then 29 else 28
  | 4 | 6 | 9 | 11 => 30
  | 1 | 3 | 5 | 7 | 8 | 10 | 12 => 31
  | _ => 0

def Date.exists (d : Date) : Bool :=
  1 ≤ d.day && d.day ≤ daysIn d.year d.month

/-- The place of a date in its year, from zero. -/
def Date.ofYear (d : Date) : Nat :=
  (List.range (d.month - 1)).foldl (fun days m => days + daysIn d.year (m + 1)) 0 + d.day - 1

/-- The day of the week, from zero on Sunday. -/
def weekday (days : Int) : Nat :=
  ((days + 4).fmod 7).toNat

/-- A point in time to the second, without a zone. -/
structure Stamp where
  days : Int
  second : Nat
  deriving Repr, DecidableEq

/-- The point a number of seconds after the start of 1970. -/
def Stamp.ofSeconds (seconds : Int) : Stamp :=
  ⟨seconds.fdiv 86400, (seconds.fmod 86400).toNat⟩

end BurstLoad.Calendar
