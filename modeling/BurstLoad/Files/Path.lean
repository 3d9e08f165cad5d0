/-!
Paths of files. A path is a row of names; single dots and repeated slashes mean nothing, two dots
stand for the directory above. Only two slashes at the start, no more and no less, are kept: what
they mean is left to the system, and here it is the root.
-/

set_option autoImplicit false

namespace BurstLoad.Files

/-- A path, from the root or from the working directory. -/
structure Path where
  -- the slashes at the start, none from the working directory
  root : String
  names : List String
  deriving Repr, DecidableEq

namespace Path

def rootOf (s : List Char) : String :=
  match (s.takeWhile (· == '/')).length with
  | 0 => ""
  | 2 => "//"
  | _ => "/"

def ofText (s : String) : Path where
  root := rootOf s.toList
  names := (s.splitOn "/").filter fun name => name != "" && name != "."

/-- The text of a path; the working directory is a single dot. -/
def text (p : Path) : String :=
  if p.root == "" && p.names.isEmpty then "." else p.root ++ "/".intercalate p.names

/-- The name that stands for the root, if a path starts there. -/
def base (p : Path) : List String :=
  if p.root == "" then [] else [""]

/-- The path without its last name. -/
def parent (p : Path) : Path :=
  { p with names := p.names.dropLast }

/-- The names of the directory above the one that names lead to: the last is left out, unless the
way up has not ended there. The root has nothing above it. -/
def above (names : List String) : List String :=
  if names == [""] then names
  else if names.all (· == "..") then names ++ [".."]
  else names.dropLast

def isOutside (names : List String) : Bool :=
  names.head? == some "" || names.head? == some ".."

/-- Names from a directory with each pair of a name and two dots after it left out. -/
def collapse (base names : List String) : List String :=
  names.foldl (fun here name => if name == ".." then above here else here ++ [name]) base

end Path

end BurstLoad.Files
