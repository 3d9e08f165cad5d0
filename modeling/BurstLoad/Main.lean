import BurstLoad.Command
import BurstLoad.CommandLine.Help

/-!
The command line. It rehearses a run in virtual time: every node accepts at once, nothing but the
bursts takes time, and after some seconds the rehearsal is over.
-/

set_option autoImplicit false

namespace BurstLoad.Rehearsal

def limit : Time := 10000

def contentOnDisk (path : String) : IO (Option Files.Content) :=
  try
    return some (.file (← IO.FS.readBinFile path))
  catch
    | .inappropriateType _ 21 _ => return some .directory
    | _ => return none

/-- Files with what is on the disk under a path, if anything is. -/
def takeFromDisk (fs : Files) (path : String) : IO Files := do
  let p := Files.Path.ofText path
  match ← contentOnDisk path, fs.makeDirectories p.base p.parent.names with
  | some content, .ok fs => return fs.put (p.base ++ p.names) content
  | _, _ => return fs

/-- Writes the files to the disk that are new or have changed. -/
def putOnDisk (before after : Files) : IO Unit :=
  for (names, content) in after.entries do
    let path := "/".intercalate names
    match content, before.find? names with
    | .directory, some _ => pure ()
    | .directory, none => IO.FS.createDirAll path
    | .file bytes, some (.file old) =>
      if bytes.data != old.data then IO.FS.writeBinFile path bytes
    | .file bytes, _ => IO.FS.writeBinFile path bytes

/-- The error of a command that it does not handle. -/
def escapeText : Command.Ending → String
  | .exit _ | .unfinished => ""
  | .escaped fault => fault.kind ++ ": " ++ fault.text ++ "\n"
  | .undrawn _ => "The counters to start from are out of range.\n"
  | .unsettled failure =>
    failure.message?.getD "The configuration has a value of a kind that cannot be used." ++ "\n"
  | .unlogged (.unknownLevel name) => Log.unknownLevelMessage name ++ "\n"
  | .unlogged .unnamedLevel => "The log level was given no name.\n"
  | .unlogged .typeMismatch => "A setting of the log has a value of the wrong type.\n"
  | .unlogged .unusableTemplate => "The pattern of the log lines is invalid.\n"
  | .unlogged (.file trouble path) => trouble.message path ++ "\n"

def exitCode : Command.Ending → Nat
  | .exit code => code
  | .unfinished => Command.succeeded
  | .escaped _ | .unsettled _ | .undrawn _ | .unlogged _ => Command.failed

/-- Rehearses a run; the exit code of the command is the result. -/
def run (o : CommandLine.Options) : IO Nat := do
  let files ← (o.config.word?.toList ++ o.logFile.word?.toList).foldlM takeFromDisk {}
  let runId ← IO.rand 0 Bytes.maxWord
  let nonce ← IO.rand 0 Bytes.maxWord
  let report := Command.run o {
    files
    network := { plan := fun _ _ => {} }
    counters := .ok ⟨runId, nonce, 0⟩
    limit }
  let (shown, after) := report.written
  IO.print shown
  IO.eprint (report.complaint ++ escapeText report.ending)
  putOnDisk files after
  return exitCode report.ending

end BurstLoad.Rehearsal

open BurstLoad

def main (arguments : List String) : IO UInt32 := do
  match CommandLine.Options.read arguments with
  | .ok options => return (← Rehearsal.run options).toUInt32
  | .error .help =>
    IO.print CommandLine.helpText
    return Command.succeeded.toUInt32
  | .error .version =>
    IO.print CommandLine.versionText
    return Command.succeeded.toUInt32
  | .error (.misuse m) =>
    IO.eprint (CommandLine.usage ++ CommandLine.misuseLine m.message ++ "\n")
    return Command.misused.toUInt32
