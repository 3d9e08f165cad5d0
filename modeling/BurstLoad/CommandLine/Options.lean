import BurstLoad.CommandLine.Word
import BurstLoad.Value

/-!
What a command line asks for. The first plain word that no flag takes is the target; a setting that
is given twice counts as given last, and nodes add up. Words that nobody takes are reported only
when all others are understood.
-/

set_option autoImplicit false

namespace BurstLoad.CommandLine

/-- What a setting was given. Two dashes attached to it give it nothing, which is not the same as
not giving it. -/
inductive Given where
  | absent
  | nothing
  | word (text : String)
  deriving Repr, DecidableEq

def Given.ofAttached (text : String) : Given :=
  if text == "--" then .nothing else .word text

/-- What was given as a value; nothing is an empty list. -/
def Given.value : Given → Value
  | .absent => .null
  | .nothing => .list []
  | .word text => .text text

/-- What was given, where nothing and an empty word count as absent. -/
def Given.word? : Given → Option String
  | .word text => if text == "" then none else some text
  | .absent | .nothing => none

structure Options where
  target : Option String := none
  size : Given := .absent
  rate : Given := .absent
  nodes : Option (List String) := none
  port : Given := .absent
  localOnly : Bool := false
  honest : Bool := false
  config : Given := .absent
  -- none if it was given nothing
  logLevel : Option Level := some .info
  logFile : Given := .absent
  jsonLogs : Bool := false
  deriving Repr, DecidableEq

/-- Why no run follows. -/
inductive Halt where
  | help
  | version
  | misuse (m : Misuse)
  deriving Repr, DecidableEq

namespace Options

/-- Turns a switch on; help and the version take the place of a run. -/
def turnOn (o : Options) : Switch → Except Halt Options
  | .help => .error .help
  | .version => .error .version
  | .localOnly => .ok { o with localOnly := true }
  | .honest => .ok { o with honest := true }
  | .jsonLogs => .ok { o with jsonLogs := true }

def assign (o : Options) (s : Setting) (given : Given) : Except Halt Options :=
  match s, given with
  | .size, given => .ok { o with size := given }
  | .rate, given => .ok { o with rate := given }
  | .port, given => .ok { o with port := given }
  | .config, given => .ok { o with config := given }
  | .logFile, given => .ok { o with logFile := given }
  | .logLevel, .word value =>
    match Level.named? value with
    | some level => .ok { o with logLevel := some level }
    | none => .error (.misuse (.noLevel value))
  | .logLevel, _ => .ok { o with logLevel := none }

def addNodes (o : Options) (nodes : List String) : Options :=
  { o with nodes := some (o.nodes.getD [] ++ nodes) }

def nodesOf : Given → List String
  | .word node => [node]
  | .absent | .nothing => []

end Options

/-- What the flag before a word still takes. -/
inductive Want where
  | nothing
  | value (s : Setting)
  -- a first node
  | node
  -- any number of further nodes
  | moreNodes
  deriving Repr, DecidableEq

/-- The misuse if what is wanted does not come. -/
def Want.unmet? : Want → Option Misuse
  | .value s => some (.valueMissing s)
  | .node => some .nodesMissing
  | .nothing | .moreNodes => none

/-- Fails if something is wanted. -/
def Want.check (w : Want) : Except Halt Unit :=
  match w.unmet? with
  | some m => .error (.misuse m)
  | none => .ok ()

/-- What is attached to the short form of help and is not that letter again: the help has no use
for it. -/
def helpValue? : List Char → Option String
  | [] => none
  | 'h' :: rest => helpValue? rest
  | value => some (String.ofList value)

/-- The options so far, and the words that nobody has taken. -/
structure Reading where
  options : Options := {}
  extras : List String := []

namespace Reading

def leave (r : Reading) (words : List String) : Reading :=
  { r with extras := r.extras ++ words }

def aim (r : Reading) (target : String) : Reading :=
  { r with options := { r.options with target := some target } }

/-- The words after two dashes: the first one is the target, unless there is one. -/
def finish (r : Reading) (after : List String) : Reading :=
  match r.options.target, after with
  | some _, after => r.leave ("--" :: after)
  | none, [] => r
  | none, target :: rest => (r.aim target).leave rest

def raise (r : Reading) (f : Flag) (attached : Option String) : Except Halt (Reading × Want) :=
  match f, attached with
  | .switch s, none => do pure ({ r with options := ← r.options.turnOn s }, .nothing)
  | .switch s, some value => .error (.misuse (.valueIgnored s value))
  | .setting s, none => .ok (r, .value s)
  | .setting s, some value => do
    pure ({ r with options := ← r.options.assign s (.ofAttached value) }, .nothing)
  | .nodes, none => .ok (r, .node)
  | .nodes, some node =>
    .ok ({ r with options := r.options.addNodes (Options.nodesOf (.ofAttached node)) }, .nothing)

/-- Reads words. Two dashes directly after the target belong to it if no flag follows. -/
def words (r : Reading) (want : Want) : List Word → Except Halt Reading
  | [] => do
    want.check
    pure r
  | .plain text :: rest =>
    match want with
    | .value s => do words { r with options := ← r.options.assign s (.word text) } .nothing rest
    | .node | .moreNodes => words { r with options := r.options.addNodes [text] } .moreNodes rest
    | .nothing =>
      if r.options.target.isSome then words (r.leave [text]) .nothing rest
      else match rest with
        | [.divided after] => .ok ((r.aim text).leave after)
        | rest => words (r.aim text) .nothing rest
  | .flag f attached :: rest => do
    want.check
    let (r, want) ← r.raise f attached
    words r want rest
  | .helpWith letters :: _ => do
    want.check
    match helpValue? letters with
    | some value => .error (.misuse (.valueIgnored .help value))
    | none => .error .help
  | .unknown text :: rest => do
    want.check
    words (r.leave [text]) .nothing rest
  | .divided after :: _ => do
    want.check
    pure (r.finish after)

end Reading

def Options.read (arguments : List String) : Except Halt Options := do
  let words ← match Word.readAll arguments with
    | .ok words => pure words
    | .error m => .error (.misuse m)
  let r ← Reading.words {} .nothing words
  if r.extras.isEmpty then pure r.options else .error (.misuse (.unrecognized r.extras))

end BurstLoad.CommandLine
