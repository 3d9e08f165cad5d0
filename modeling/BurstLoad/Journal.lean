import BurstLoad.Time

/-!
Log entries: when, how grave, from which part, and the text.
-/

set_option autoImplicit false

namespace BurstLoad

inductive Level where
  | debug
  | info
  | warning
  | error
  deriving Repr, DecidableEq

def Level.name : Level → String
  | .debug => "DEBUG"
  | .info => "INFO"
  | .warning => "WARNING"
  | .error => "ERROR"

def Level.all : List Level := [.debug, .info, .warning, .error]

def Level.named? (name : String) : Option Level :=
  all.find? fun l => l.name == name

def Level.rank : Level → Int
  | .debug => 10
  | .info => 20
  | .warning => 30
  | .error => 40

inductive Part where
  | settings
  | generator
  | scheduler
  | framing
  | barrier
  | listener
  | client
  | command
  deriving Repr, DecidableEq

def Part.name : Part → String
  | .settings => "benchclient.config"
  | .generator => "benchclient.control.generator"
  | .scheduler => "benchclient.control.scheduler"
  | .framing => "benchclient.networking.framing"
  | .barrier => "benchclient.networking.barrier"
  | .listener => "benchclient.networking.listener"
  | .client => "benchclient.client"
  | .command => "benchmark_client"

/-- What a part says; the clock is added by whoever hears it. -/
structure Notice where
  level : Level
  part : Part
  text : String
  deriving Repr, DecidableEq

structure Entry where
  time : Time
  notice : Notice
  deriving Repr, DecidableEq

abbrev Journal := Array Entry

/-- The journal with notices of one instant after it. -/
def Journal.record (j : Journal) (time : Time) (notices : List Notice) : Journal :=
  notices.foldl (fun j n => j.push ⟨time, n⟩) j

end BurstLoad
