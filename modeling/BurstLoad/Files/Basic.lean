import BurstLoad.Files.Path
import BurstLoad.Text.Quoted

/-!
The files of a run: a working directory with files and directories in it. Files are read as a
whole and written at their end.
-/

set_option autoImplicit false

namespace BurstLoad

namespace Files

inductive Content where
  | file (bytes : ByteArray)
  | directory

inductive Trouble where
  | missing
  | exists
  | notDirectory
  | isDirectory
  | tooLong
  -- a path with a zero in it, which no call of the system can pass on
  | zeroInside
  deriving Repr, DecidableEq

def Trouble.number? : Trouble → Option Nat
  | .missing => some 2
  | .exists => some 17
  | .notDirectory => some 20
  | .isDirectory => some 21
  | .tooLong => some 36
  | .zeroInside => none

def Trouble.text : Trouble → String
  | .missing => "No such file or directory"
  | .exists => "File exists"
  | .notDirectory => "Not a directory"
  | .isDirectory => "Is a directory"
  | .tooLong => "File name too long"
  | .zeroInside => "embedded null byte"

def Trouble.kind : Trouble → String
  | .missing => "FileNotFoundError"
  | .exists => "FileExistsError"
  | .notDirectory => "NotADirectoryError"
  | .isDirectory => "IsADirectoryError"
  | .tooLong => "OSError"
  | .zeroInside => "ValueError"

def Trouble.message (t : Trouble) (path : String) : String :=
  match t.number? with
  | some n => "[Errno " ++ toString n ++ "] " ++ t.text ++ ": " ++ Text.quote path
  | none => t.text

/-- The most bytes of a name, and of a path. -/
def maxNameLength : Nat := 255
def maxPathLength : Nat := 4095

/-- What is wrong with a path before any file is looked at. -/
def Path.trouble? (p : Path) : Option Trouble :=
  if p.names.any fun name => name.toList.contains '\x00' then some .zeroInside
  else if maxPathLength < p.text.utf8ByteSize then some .tooLong
  else none

def fits (name : String) : Bool :=
  name.utf8ByteSize ≤ maxNameLength

end Files

/-- Files and directories by the names that lead to them from the working directory; those outside
of it by an empty name and the names that lead to them from the root, or by the two dots that lead
up and the names that lead down from there. -/
structure Files where
  entries : List (List String × Files.Content) := []

namespace Files

/-- What stands under names. The working directory itself is a directory, and so are those above
it and the root. -/
def find? (fs : Files) (names : List String) : Option Content :=
  if names == [""] || names.all (· == "..") then some .directory
  else (fs.entries.find? fun e => e.1 == names).map Prod.snd

def put (fs : Files) (names : List String) (content : Content) : Files :=
  if fs.entries.any fun e => e.1 == names then
    ⟨fs.entries.map fun e => if e.1 == names then (names, content) else e⟩
  else ⟨fs.entries ++ [(names, content)]⟩

def erase (fs : Files) (names : List String) : Files :=
  ⟨fs.entries.filter fun e => e.1 != names⟩

/-- Moves what stands under names, and all below it, to other names. -/
def move (fs : Files) (names target : List String) : Files :=
  ⟨fs.entries.map fun e =>
    if names.isPrefixOf e.1 then (target ++ e.1.drop names.length, e.2) else e⟩

/-- Follows names from a directory; each but the last must lead to a directory, and two dots lead
to the one above. -/
def walk (fs : Files) (base : List String) : List String → Except Trouble (List String)
  | [] => .ok base
  | ".." :: rest => fs.walk (Path.above base) rest
  | [name] => if fits name then .ok (base ++ [name]) else .error .tooLong
  | name :: rest =>
    if !fits name then .error .tooLong
    else match fs.find? (base ++ [name]) with
    | some .directory => fs.walk (base ++ [name]) rest
    | some (.file _) => .error .notDirectory
    | none => .error .missing

def resolve (fs : Files) (p : Path) : Except Trouble (List String) :=
  match p.trouble? with
  | some trouble => .error trouble
  | none => fs.walk p.base p.names

def read (fs : Files) (p : Path) : Except Trouble ByteArray := do
  match fs.find? (← fs.resolve p) with
  | some (.file bytes) => pure bytes
  | some .directory => .error .isDirectory
  | none => .error .missing

/-- Makes the directories on a path that are not there yet. -/
def makeDirectories (fs : Files) (base : List String) : List String → Except Trouble Files
  | [] => .ok fs
  | ".." :: rest => fs.makeDirectories (Path.above base) rest
  | name :: rest =>
    let here := base ++ [name]
    if !fits name then .error .tooLong
    else match fs.find? here with
    | some .directory => fs.makeDirectories here rest
    | some (.file _) => .error (if rest.isEmpty then .exists else .notDirectory)
    | none => (fs.put here .directory).makeDirectories here rest

/-- Makes the directories of a path that are not there yet. -/
def makePath (fs : Files) (p : Path) : Except Trouble Files :=
  match p.trouble? with
  | some trouble => .error trouble
  | none => fs.makeDirectories p.base p.names

/-- Opens a file for writing at its end; one that is not there begins empty. -/
def openAtEnd (fs : Files) (names : List String) : Except Trouble Files := do
  match fs.find? (← fs.walk [] names) with
  | some (.file _) => pure fs
  | some .directory => .error .isDirectory
  | none => pure (fs.put names (.file .empty))

def append (fs : Files) (names : List String) (text : String) : Files :=
  match fs.find? names with
  | some (.file bytes) => fs.put names (.file (bytes ++ text.toUTF8))
  | _ => fs.put names (.file text.toUTF8)

def sizeOf (fs : Files) (names : List String) : Nat :=
  match fs.find? names with
  | some (.file bytes) => bytes.size
  | _ => 0

end Files

end BurstLoad
