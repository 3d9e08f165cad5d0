import BurstLoad.Decimal.Whole
import BurstLoad.Files.Basic
import BurstLoad.Value

/-!
Log files that are rotated. When a line would fill a file up to its limit, the file is set aside
under its name with the number one, older ones move up by one, and the oldest is given up. Without
room for older files it just goes on.
-/

set_option autoImplicit false

namespace BurstLoad.Log

/-- A log file. Without a positive limit it is never rotated. -/
structure LogFile where
  names : List String
  limit : Value
  backups : Value
  deriving Inhabited

namespace LogFile

/-- A limit in mebibytes as a number of bytes, if it is a number. -/
def bytesOf? (mebibytes : Value) : Option Value :=
  match mebibytes with
  | .int n => some (.int (n * 1024 * 1024))
  | .bool b => some (.int (if b then 1048576 else 0))
  | .float x => some (.float (x * 1024.0 * 1024.0))
  | _ => none

def isReached (limit : Value) (size : Nat) : Bool :=
  match limit with
  | .int n => n > 0 && n ≤ size
  | .float x =>
    x > 0.0 && (match Decimal.ceil? x with
      | some n => n ≤ size
      | none => false)
  | _ => false

def older (f : LogFile) (number : Nat) : List String :=
  f.names.dropLast ++ [f.names.getLastD "" ++ "." ++ toString number]

/-- The number of older files that are kept. A number that is not positive keeps none, and of the
others only whole ones count files. -/
def kept? (backups : Value) : Option Nat :=
  match backups with
  | .int n => some n.toNat
  | .bool b => some (if b then 1 else 0)
  | .float x => if x > 0.0 then none else some 0
  | _ => none

/-- Moves a file over another one, which is given up; a directory cannot be. -/
def replace (fs : Files) (names target : List String) : Option Files :=
  match fs.find? names, fs.find? target with
  | none, _ => some fs
  | some _, some .directory => none
  | some _, some (.file _) => some ((fs.erase target).move names target)
  | some _, none => some (fs.move names target)

/-- Moves the older files up, from the given number downwards. -/
def shift (f : LogFile) (fs : Files) : Nat → Option Files
  | 0 => some fs
  | number + 1 => do
    f.shift (← replace fs (f.older (number + 1)) (f.older (number + 2))) number

/-- Sets the file aside and begins it anew, if that is possible. -/
def rotate (f : LogFile) (fs : Files) : Option Files := do
  let fs ← match ← kept? f.backups with
    | 0 => pure fs
    | number + 1 => do
      let fs ← f.shift fs number
      match fs.find? (f.older 1) with
      | some .directory => none
      | _ => replace (fs.erase (f.older 1)) f.names (f.older 1)
  (fs.openAtEnd f.names).toOption

/-- Writes a line, into a file begun anew if the old one would be filled by it. A line that has no
bytes is left out. There is no result if the file can neither be opened nor begun anew. -/
def write (f : LogFile) (fs : Files) (line : String) : Option Files := do
  let fs ← (fs.openAtEnd f.names).toOption
  let fs ← if isReached f.limit (fs.sizeOf f.names + line.length + 1) then f.rotate fs else pure fs
  pure (if Text.isEncodable line then fs.append f.names (line ++ "\n") else fs)

end LogFile

end BurstLoad.Log
