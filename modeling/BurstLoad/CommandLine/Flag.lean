import BurstLoad.Journal
import BurstLoad.Text.Quoted

/-!
The flags of the command line and the ways to misuse them. A switch takes nothing, a setting takes
one value, and the nodes take as many as follow.
-/

set_option autoImplicit false

namespace BurstLoad.CommandLine

/-- A flag that takes nothing. -/
inductive Switch where
  | help
  | localOnly
  | honest
  | jsonLogs
  | version
  deriving Repr, DecidableEq

inductive Setting where
  | size
  | rate
  | port
  | config
  | logLevel
  | logFile
  deriving Repr, DecidableEq

inductive Flag where
  | switch (s : Switch)
  | setting (s : Setting)
  | nodes
  deriving Repr, DecidableEq

namespace Flag

/-- All flags, in the order in which they are listed. -/
def all : List Flag := [
  .switch .help, .setting .size, .setting .rate, .nodes, .setting .port, .switch .localOnly,
  .switch .honest, .setting .config, .setting .logLevel, .setting .logFile, .switch .jsonLogs,
  .switch .version]

def spellings : Flag → List String
  | .switch .help => ["-h", "--help"]
  | .switch .localOnly => ["--local"]
  | .switch .honest => ["--honest"]
  | .switch .jsonLogs => ["--json-logs"]
  | .switch .version => ["--version"]
  | .setting .size => ["--size"]
  | .setting .rate => ["--rate"]
  | .setting .port => ["--port"]
  | .setting .config => ["--config"]
  | .setting .logLevel => ["--log-level"]
  | .setting .logFile => ["--log-file"]
  | .nodes => ["--nodes"]

def label (f : Flag) : String :=
  "/".intercalate f.spellings

def listed : List (String × Flag) :=
  all.flatMap fun f => f.spellings.map fun s => (s, f)

def named? (spelling : String) : Option Flag :=
  (listed.find? fun p => p.1 == spelling).map Prod.snd

def candidates (start : List Char) : List (String × Flag) :=
  listed.filter fun p => start.isPrefixOf p.1.toList

end Flag

inductive Misuse where
  | ambiguous (word : String) (candidates : List String)
  -- a setting without a value
  | valueMissing (s : Setting)
  | nodesMissing
  -- a value for a switch
  | valueIgnored (s : Switch) (value : String)
  | noLevel (value : String)
  -- words that mean nothing
  | unrecognized (words : List String)
  deriving Repr, DecidableEq

def Misuse.message : Misuse → String
  | .ambiguous word candidates =>
    "ambiguous option: " ++ word ++ " could match " ++ ", ".intercalate candidates
  | .valueMissing s => "argument " ++ (Flag.setting s).label ++ ": expected one argument"
  | .nodesMissing => "argument " ++ Flag.nodes.label ++ ": expected at least one argument"
  | .valueIgnored s value =>
    "argument " ++ (Flag.switch s).label ++ ": ignored explicit argument " ++ Text.quote value
  | .noLevel value =>
    "argument " ++ (Flag.setting .logLevel).label ++ ": invalid choice: " ++ Text.quote value ++
      " (choose from " ++ ", ".intercalate (Level.all.map fun l => Text.quote l.name) ++ ")"
  | .unrecognized words => "unrecognized arguments: " ++ " ".intercalate words

end BurstLoad.CommandLine
