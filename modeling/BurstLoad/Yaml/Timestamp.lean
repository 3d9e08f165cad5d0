import BurstLoad.Calendar.Date
import BurstLoad.Text.Digit
import BurstLoad.Value
import BurstLoad.Yaml.Cursor
import BurstLoad.Yaml.Failure

/-!
Dates and times as plain scalars write them: a date alone, or with a time behind it, which may have
a fraction of a second and a zone.
-/

set_option autoImplicit false

namespace BurstLoad.Yaml.Timestamp

structure Time where
  hour : Nat
  minute : Nat
  second : Nat
  fraction : List Char
  -- minutes east of Greenwich, as far as a zone is given
  zone : Option Int

structure Parts where
  year : Nat
  month : List Char
  day : List Char
  time : Option Time

/-- A number of digits at the head, as many as possible between two bounds. -/
def digits? (least most : Nat) (s : List Char) : Option (List Char × List Char) :=
  let ds := (s.take most).takeWhile Text.isAsciiDigit
  if ds.length < least then none else some (ds, s.drop ds.length)

def expect? (c : Char) : List Char → Option (List Char)
  | x :: rest => if x == c then some rest else none
  | [] => none

/-- The zone at the end: the letter of Greenwich, or an offset in hours and minutes. -/
def zone? (s : List Char) : Option (Option Int) :=
  if s.isEmpty then some none
  else match s.dropWhile isSpace with
    | ['Z'] => some (some 0)
    | sign :: rest =>
      if sign == '+' || sign == '-' then do
        let (hours, rest) ← digits? 1 2 rest
        let minutes ← match rest with
          | [] => some []
          | ':' :: rest => do
            let (ds, rest) ← digits? 2 2 rest
            if rest.isEmpty then some ds else none
          | _ => none
        let n : Int := 60 * Text.digitsValue hours + Text.digitsValue minutes
        some (some (if sign == '-' then -n else n))
      else none
    | [] => none

/-- The fraction of a second at the head, after its point. -/
def fraction (s : List Char) : List Char × List Char :=
  match s with
  | '.' :: rest => (rest.takeWhile Text.isAsciiDigit, rest.dropWhile Text.isAsciiDigit)
  | s => ([], s)

def time? (s : List Char) : Option (Option Time) :=
  match s with
  | [] => some none
  | c :: rest => do
    let rest ← if c == 'T' || c == 't' then some rest
      else if isSpace c then some (rest.dropWhile isSpace)
      else none
    let (hour, rest) ← digits? 1 2 rest
    let (minute, rest) ← digits? 2 2 (← expect? ':' rest)
    let (second, rest) ← digits? 2 2 (← expect? ':' rest)
    let (fraction, rest) := fraction rest
    let zone ← zone? rest
    some (some ⟨Text.digitsValue hour, Text.digitsValue minute, Text.digitsValue second, fraction,
      zone⟩)

def parts? (s : List Char) : Option Parts := do
  let (year, rest) ← digits? 4 4 s
  let (month, rest) ← digits? 1 2 (← expect? '-' rest)
  let (day, rest) ← digits? 1 2 (← expect? '-' rest)
  let time ← time? rest
  some ⟨Text.digitsValue year, month, day, time⟩

/-- Whether a plain scalar is taken for a timestamp: a date alone needs all its digits. -/
def isPlain (s : List Char) : Bool :=
  match parts? s with
  | some p => p.time.isSome || (p.month.length == 2 && p.day.length == 2)
  | none => false

/-- The first six digits of a fraction as millionths. -/
def micros (fraction : List Char) : Nat :=
  Text.digitsValue ((fraction ++ List.replicate 6 '0').take 6)

/-- The moment that a timestamp names, if the calendar and the clock have it. -/
def read (s : List Char) : Except Misfit Moment :=
  match parts? s with
  | none => .error .timestamp
  | some p =>
    let date : Calendar.Date := ⟨p.year, Text.digitsValue p.month, Text.digitsValue p.day⟩
    if p.year == 0 || !date.exists then .error .number
    else match p.time with
      | none => .ok ⟨p.year, date.month, date.day, none⟩
      | some t =>
        let zoneFits := match t.zone with
          | some z => z.natAbs < 1440
          | none => true
        if t.hour < 24 && t.minute < 60 && t.second < 60 && zoneFits then
          .ok ⟨p.year, date.month, date.day,
            some ⟨t.hour, t.minute, t.second, micros t.fraction, t.zone⟩⟩
        else .error .number

end BurstLoad.Yaml.Timestamp
