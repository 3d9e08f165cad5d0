import BurstLoad.Calendar.Date
import BurstLoad.Text.Digit

/-!
Patterns for dates and times. A percent sign and a letter stand for a part of the date; all else
stands for itself.
-/

set_option autoImplicit false

namespace BurstLoad.Calendar

def dayNames : List String :=
  ["Sunday", "Monday", "Tuesday", "Wednesday", "Thursday", "Friday", "Saturday"]

def monthNames : List String :=
  ["January", "February", "March", "April", "May", "June", "July", "August", "September",
    "October", "November", "December"]

def yearLength (year : Int) : Int :=
  if isLeap year then 366 else 365

/-- The year and the week that a date belongs to when weeks begin on Monday and the first one
holds the fourth of January. -/
def isoWeek (year : Int) (ofYear weekday : Int) : Int × Int :=
  let monday := (weekday + 6).fmod 7
  let week := (ofYear - monday + 10).fdiv 7
  let firstDay := (monday - ofYear).fmod 7
  let weeks := if firstDay == 3 || (isLeap year && firstDay == 2) then 53 else 52
  if week < 1 then
    let before := year - 1
    let first := (firstDay - yearLength before).fmod 7
    (before, if first == 3 || (isLeap before && first == 2) then 53 else 52)
  else if week > weeks then (year + 1, 1)
  else (year, week)

def hourOfTwelve (hour : Nat) : Nat :=
  if hour % 12 == 0 then 12 else hour % 12

/-- What stands between a percent sign and its letter. -/
structure Directions where
  -- how numbers are filled up: with zeros, with blanks or not at all
  fill : Option Char := none
  upper : Bool := false
  changed : Bool := false
  width : Nat := 0
  -- the sign for another era or for other digits, which here are the same
  variant : Option Char := none

/-- A number with its least number of digits, and whether blanks fill it up rather than zeros. -/
structure Numeral where
  digits : Nat
  value : Int
  blanks : Bool := false

def Stamp.numeral? (s : Stamp) (letter : Char) : Option Numeral :=
  let d := Date.ofDays s.days
  let w := weekday s.days
  let hour := s.second / 3600
  let ofYear := d.ofYear
  match letter with
  | 'Y' => some ⟨1, d.year, false⟩
  | 'm' => some ⟨2, d.month, false⟩
  | 'd' => some ⟨2, d.day, false⟩
  | 'H' => some ⟨2, hour, false⟩
  | 'M' => some ⟨2, (s.second / 60 % 60 : Nat), false⟩
  | 'S' => some ⟨2, (s.second % 60 : Nat), false⟩
  | 'C' => some ⟨1, d.year.fdiv 100, false⟩
  | 'e' => some ⟨2, d.day, true⟩
  | 'G' => some ⟨1, (isoWeek d.year ofYear w).1, false⟩
  | 'g' => some ⟨2, (isoWeek d.year ofYear w).1.fmod 100, false⟩
  | 'I' => some ⟨2, hourOfTwelve hour, false⟩
  | 'j' => some ⟨3, ofYear + 1, false⟩
  | 'k' => some ⟨2, hour, true⟩
  | 'l' => some ⟨2, hourOfTwelve hour, true⟩
  | 'u' => some ⟨1, if w == 0 then 7 else w, false⟩
  | 'U' => some ⟨2, ((ofYear + 7 - w) / 7 : Nat), false⟩
  | 'V' => some ⟨2, (isoWeek d.year ofYear w).2, false⟩
  | 'w' => some ⟨1, w, false⟩
  | 'W' => some ⟨2, ((ofYear + 7 - (w + 6) % 7) / 7 : Nat), false⟩
  | 'y' => some ⟨2, d.year.fmod 100, false⟩
  | _ => none

def Stamp.word? (s : Stamp) (letter : Char) : Option String :=
  let d := Date.ofDays s.days
  let day := dayNames.getD (weekday s.days) ""
  let month := monthNames.getD (d.month - 1) ""
  let short (name : String) := String.ofList (name.toList.take 3)
  match letter with
  | 'a' => some (short day)
  | 'A' => some day
  | 'b' | 'h' => some (short month)
  | 'B' => some month
  | 'n' => some "\n"
  | 'p' => some (if s.second < 43200 then "AM" else "PM")
  | 'P' => some (if s.second < 43200 then "am" else "pm")
  | 't' => some "\t"
  | 'Z' => some "UTC"
  | '%' => some "%"
  | _ => none

def abbreviation? : Char → Option String
  | 'c' => some "%a %b %e %H:%M:%S %Y"
  | 'D' | 'x' => some "%m/%d/%y"
  | 'F' => some "%Y-%m-%d"
  | 'r' => some "%I:%M:%S %p"
  | 'R' => some "%H:%M"
  | 'T' | 'X' => some "%H:%M:%S"
  | _ => none

/-- Whether a letter means something after the sign of a variant. -/
def admits (variant : Option Char) (letter : Char) : Bool :=
  match variant with
  | none => true
  | some v =>
    if "aADF%".toList.contains letter then false
    else if v == 'E' then !"bBhdeHIkljMmSUVgGWw".toList.contains letter
    else !"cxXY".toList.contains letter

def widen (d : Directions) (text : List Char) : List Char :=
  List.replicate (d.width - text.length) (if d.fill == some '0' then '0' else ' ') ++ text

/-- A number filled up to its digits, and then like a text. -/
def Numeral.write (n : Numeral) (d : Directions) : List Char :=
  let fill := if n.blanks && d.fill != some '0' && d.fill != some '-' then some '_' else d.fill
  let sign := if n.value < 0 then ['-'] else []
  let ds := Text.decimalOfWidth 1 n.value.natAbs
  let missing := max n.digits d.width - (sign.length + ds.length)
  if fill == some '-' then widen d (sign ++ ds)
  else if fill == some '_' then List.replicate missing ' ' ++ sign ++ ds
  else sign ++ List.replicate missing '0' ++ ds

/-- A letter without directions, as the abbreviations hold them. -/
def Stamp.part (s : Stamp) (letter : Char) : List Char :=
  match s.numeral? letter, s.word? letter with
  | some n, _ => n.write {}
  | none, some word => word.toList
  | none, none => []

/-- A pattern whose letters have no directions. -/
def Stamp.plain (s : Stamp) : List Char → List Char
  | '%' :: c :: rest => s.part c ++ s.plain rest
  | c :: rest => c :: s.plain rest
  | [] => []

/-- A word in the case that is asked for. Names of days and months change to capitals, the others
to small letters. -/
def recase (d : Directions) (letter : Char) (word : List Char) : List Char :=
  if letter == 'P' then word
  else if d.changed && (letter == 'p' || letter == 'Z') then word.map Char.toLower
  else if d.upper || (d.changed && "aAbBh".toList.contains letter) then word.map Char.toUpper
  else word

/-- The text of a conversion, none for a letter without meaning. -/
def Stamp.conversion? (s : Stamp) (d : Directions) (letter : Char) : Option (List Char) :=
  if !admits d.variant letter then none
  else match s.numeral? letter, s.word? letter, abbreviation? letter with
    | some n, _, _ => some (n.write d)
    | _, some word, _ => some (widen d (recase d letter word.toList))
    | _, _, some p =>
      let text := widen d (s.plain p.toList)
      some (if d.upper then text.map Char.toUpper else text)
    | none, none, none =>
      if letter == 'z' then some (widen d ['+'] ++ (Numeral.mk 4 0 false).write d)
      else if letter == 's' then
        some (widen d (toString (s.days * 86400 + s.second)).toList)
      else none

/-- The directions with one more, if the character is one. -/
def Directions.with? (d : Directions) : Char → Option Directions
  | '_' => some { d with fill := some '_' }
  | '-' => some { d with fill := some '-' }
  | '0' => some { d with fill := some '0' }
  | '^' => some { d with upper := true }
  | '#' => some { d with changed := true }
  | _ => none

/-- The directions at the head, with the characters that they take. -/
def Directions.read (d : Directions) (taken : List Char) :
    List Char → Directions × List Char × List Char
  | [] => (d, taken, [])
  | c :: rest =>
    match d.with? c with
    | some d => d.read (taken ++ [c]) rest
    | none =>
      let ds := (c :: rest).takeWhile Text.isAsciiDigit
      let d := { d with width := Text.digitsValue ds }
      match (c :: rest).drop ds.length with
      | 'E' :: rest => ({ d with variant := some 'E' }, taken ++ ds ++ ['E'], rest)
      | 'O' :: rest => ({ d with variant := some 'O' }, taken ++ ds ++ ['O'], rest)
      | rest => (d, taken ++ ds, rest)

/-- A conversion without meaning stands as it is written, from its last percent sign on. -/
def verbatim (d : Directions) (written : List Char) : List Char :=
  let text := '%' :: (written.reverse.takeWhile (· != '%')).reverse
  widen d (if d.upper then text.map Char.toUpper else text)

/-- The pieces that a pattern is filled with; no width may be greater than the room. -/
def Stamp.fillFrom (s : Stamp) (room : Nat) : Nat → List Char → Option (List Char)
  | _, [] => some []
  | 0, _ => some []
  | fuel + 1, '%' :: rest =>
    let (d, taken, rest) := Directions.read {} [] rest
    if room ≤ d.width then none
    else match rest with
      | [] => some (verbatim d taken)
      | letter :: rest =>
        let piece := (s.conversion? d letter).getD (verbatim d (taken ++ [letter]))
        (s.fillFrom room fuel rest).map (piece ++ ·)
  | fuel + 1, c :: rest => (s.fillFrom room fuel rest).map (c :: ·)

/-- The room for the text of a pattern: it is doubled until it is at least 256 times as long as the
pattern. -/
def roomFor (length : Nat) : Nat → Nat → Nat
  | 0, room => room
  | fuel + 1, room => if 256 * length ≤ room then room else roomFor length fuel (2 * room)

/-- A point in time by a pattern. A text for which there is no room is left out. -/
def Stamp.format (s : Stamp) (pattern : String) : String :=
  let p := pattern.toList
  let room := roomFor p.length p.length 1024
  match s.fillFrom room (p.length + 1) p with
  | some text => if text.length < room then String.ofList text else ""
  | none => ""

end BurstLoad.Calendar
