import BurstLoad.Files.Basic
import BurstLoad.Journal
import BurstLoad.Settings.Basic
import BurstLoad.Yaml.Document

/-!
Configuration files. A file holds one mapping, in a form that a reader knows; an empty one stands
for an empty mapping. What cannot be read, is malformed or is no mapping is rejected with the path
in its message.
-/

set_option autoImplicit false

namespace BurstLoad.Settings

def loadedNotice (path : String) : Notice :=
  ⟨.debug, .settings, "Loaded configuration from " ++ path⟩

/-- Why the bytes of a file give no value. -/
inductive Unread where
  -- they are not text in UTF-8
  | undecodable
  | malformed (reason : String)
  -- they hold a scalar that does not read as the type it claims
  | unconvertible (misfit : Yaml.Misfit)

/-- How the bytes of a file are read. -/
abbrev Reader := ByteArray → Except Unread Value

def malformedReason : String := "no document that can be used"

/-- Reads YAML, all of whose bytes are decoded before any of its text is looked at. -/
def yaml : Reader := fun bytes =>
  match String.fromUTF8? bytes with
  | none => .error .undecodable
  | some text =>
    match Yaml.read text with
    | .ok v => .ok v
    | .error .malformed => .error (.malformed malformedReason)
    | .error (.misfit m) => .error (.unconvertible m)

def Unread.failure (path : String) : Unread → Failure
  | .undecodable => .undecodable
  | .malformed reason => .rejected (.malformed path reason)
  | .unconvertible m => .unconvertible m

/-- The entries of a file's value, and what is noted of them. -/
def entriesOf (path : String) (v : Value) : Except Failure (Entries × List Notice) :=
  match v.opened with
  | .null => .ok ([], [])
  | .mapping entries => .ok (entries, [loadedNotice path])
  | _ => .error (.rejected (.notMapping path))

def load (reader : Reader) (fs : Files) (path : String) :
    Except Failure (Entries × List Notice) := do
  let p := Files.Path.ofText path
  match fs.read p with
  | .error .zeroInside => .error .unusablePath
  | .error trouble => .error (.rejected (.unreadable p.text (trouble.message p.text)))
  | .ok bytes => entriesOf p.text (← (reader bytes).mapError (Unread.failure p.text))

/-- Reads a configuration from a file and the values that override its entries. -/
def configure (reader : Reader) (fs : Files) (path : String) (overrides : List (String × Value)) :
    Except Failure Settings := do
  build (← load reader fs path).1 overrides

end BurstLoad.Settings
