import BurstLoad.Log.File
import BurstLoad.Log.Style

/-!
Where log records go. One rank decides what is heard at all; each handler writes to the console or
to a file in a style of its own. Records of the event loop are heard from warnings on.
-/

set_option autoImplicit false

namespace BurstLoad.Log

inductive Target where
  | console
  | file (f : LogFile)

/-- A target with the least rank that goes there, and the style of its lines. -/
structure Handler where
  target : Target
  rank : Int
  style : Style

/-- What is heard, and where it goes. -/
structure Logging where
  rank : Int := 10
  handlers : List Handler := []
  -- the rank from which on the event loop is heard, zero if it is heard like all others
  loopRank : Int := 0

structure Setup where
  level : Value := .text "INFO"
  file : Value := .null
  mebibytes : Value := .int 100
  backups : Value := .int 5
  console : Bool := true
  json : Bool := false
  template : Value := .null

inductive Failure where
  | unknownLevel (name : String)
  -- a level that is not even a text
  | unnamedLevel
  | unusableTemplate
  -- a value of a type that cannot be used where it is given
  | typeMismatch
  | file (trouble : Files.Trouble) (path : String)

/-- The message for a level without a rank. -/
def unknownLevelMessage (name : String) : String :=
  "Unknown log level: " ++ name

namespace Setup

def rank? (s : Setup) : Except Failure Int :=
  match s.level with
  | .text name =>
    match rankOf? name with
    | some rank => .ok rank
    | none => .error (.unknownLevel name)
  | _ => .error .unnamedLevel

/-- The pattern of the lines. One that is not given is the standard one, an empty one is just the
message. -/
def pattern? (s : Setup) : Except Failure String :=
  match s.template with
  | .null => .ok Style.standardTemplate
  | .text t =>
    if Style.isUsable (Style.orBare t) then .ok (Style.orBare t) else .error .unusableTemplate
  | v => if v.truthy then .error .typeMismatch else .ok Style.bareTemplate

/-- The style of lines on the console; colours are for terminals. -/
def consoleStyle? (s : Setup) (terminal : Bool) : Except Failure Style :=
  if s.json then .ok .json
  else s.pattern?.map fun t =>
    if terminal then .coloured t (some Style.standardDates)
    else .pattern t (some Style.standardDates)

def fileStyle? (s : Setup) : Except Failure Style :=
  s.consoleStyle? false

/-- Opens the log file in directories that are there. -/
def openIn (s : Setup) (p : Files.Path) (fs : Files) :
    Except Failure (LogFile × Files) :=
  let names := Files.Path.collapse p.base p.names
  match LogFile.bytesOf? s.mebibytes, p.trouble? with
  | none, _ => .error .typeMismatch
  | some _, some trouble => .error (.file trouble p.text)
  | some limit, none =>
    match fs.openAtEnd names with
    | .error trouble => .error (.file trouble p.text)
    | .ok fs => .ok (⟨names, limit, s.backups⟩, fs)

/-- Opens the log file, with the directories above it, which stay even if it fails. -/
def openFile (s : Setup) (path : String) (fs : Files) : Files × Except Failure LogFile :=
  let p := Files.Path.ofText path
  match fs.makePath p.parent with
  | .error trouble => (fs, .error (.file trouble path))
  | .ok fs =>
    match s.openIn p fs with
    | .error e => (fs, .error e)
    | .ok (f, fs) => (fs, .ok f)

end Setup

namespace Logging

/-- Adds the handler for the console, if it is asked for. -/
def withConsole (l : Logging) (s : Setup) (terminal : Bool) : Except Failure Logging :=
  if s.console then
    (s.consoleStyle? terminal).map fun style =>
      { l with handlers := l.handlers ++ [⟨.console, l.rank, style⟩] }
  else .ok l

/-- Adds the handler for the log file, if it is asked for. The file is opened before its style is
looked at. -/
def withFile (l : Logging) (s : Setup) (fs : Files) : Logging × Files × Option Failure :=
  match s.file with
  | .text "" => (l, fs, none)
  | .text path =>
    match s.openFile path fs with
    | (fs, .error e) => (l, fs, some e)
    | (fs, .ok f) =>
      match s.fileStyle? with
      | .error e => (l, fs, some e)
      | .ok style => ({ l with handlers := l.handlers ++ [⟨.file f, l.rank, style⟩] }, fs, none)
  | v => (l, fs, if v.truthy then some .typeMismatch else none)

/-- Sets up anew. After a failure what was done before it stays done. -/
def configure (l : Logging) (s : Setup) (terminal : Bool) (fs : Files) :
    Logging × Files × Option Failure :=
  match Setup.rank? s with
  | .error e => (l, fs, some e)
  | .ok rank =>
    let l := { l with rank, handlers := [] }
    match l.withConsole s terminal with
    | .error e => (l, fs, some e)
    | .ok l =>
      match l.withFile s fs with
      | (l, fs, none) => ({ l with loopRank := 30 }, fs, none)
      | failed => failed

def rankFor (l : Logging) (logger : String) : Int :=
  if logger == "asyncio" || logger.startsWith "asyncio." then
    if l.loopRank == 0 then l.rank else l.loopRank
  else l.rank

def hears (l : Logging) (r : Record) : Bool :=
  r.order > 0 && l.rankFor r.logger ≤ r.order

/-- Writes a record to one target. A record that cannot be written is left out. -/
def Handler.emit (h : Handler) (fs : Files) (r : Record) : String × Files :=
  if r.order < h.rank then ("", fs)
  else match h.style.render r with
    | .error _ => ("", fs)
    | .ok line =>
      match h.target with
      | .console => (line ++ "\n", fs)
      | .file f =>
        ("", (f.write fs line).getD fs)

/-- Writes a record to all targets: what the console shows, and the files after it. -/
def emit (l : Logging) (fs : Files) (r : Record) : String × Files :=
  if l.hears r then
    l.handlers.foldl (fun (shown, fs) h =>
      let (more, fs) := Handler.emit h fs r
      (shown ++ more, fs)) ("", fs)
  else ("", fs)

/-- Writes the records of entries, one after the other. -/
def emitAll (l : Logging) (fs : Files) (entries : List Entry) : String × Files :=
  entries.foldl (fun (shown, fs) e =>
    let (more, fs) := l.emit fs (.ofEntry e)
    (shown ++ more, fs)) ("", fs)

end Logging

end BurstLoad.Log
