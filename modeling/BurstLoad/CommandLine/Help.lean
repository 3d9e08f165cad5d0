/-!
What the program says of itself: how to call it, what its options mean, and its version.
-/

set_option autoImplicit false

namespace BurstLoad.CommandLine

def programName : String := "benchmark-client"

/-- Lines, each with its end. -/
def paragraph (lines : List String) : String :=
  String.join (lines.map fun line => line ++ "\n")

def usage : String := paragraph [
  "usage: benchmark-client [-h] [--size SIZE] [--rate RATE]",
  "                        [--nodes ADDR [ADDR ...]] [--port PORT] [--local]",
  "                        [--honest] [--config CONFIG]",
  "                        [--log-level \x7bDEBUG,INFO,WARNING,ERROR\x7d]",
  "                        [--log-file LOG_FILE] [--json-logs] [--version]",
  "                        [ADDR]"]

/-- How the program is called and what its options mean. -/
def helpText : String := usage ++ "\n" ++ paragraph [
  "Benchmark client: sends transactions to a node at a fixed rate",
  "",
  "positional arguments:",
  "  ADDR                  The network address of the node where to send txs",
  "",
  "options:",
  "  -h, --help            show this help message and exit",
  "  --size SIZE           The size of each transaction in bytes",
  "  --rate RATE           The rate (txs/s) at which to send the transactions",
  "  --nodes ADDR [ADDR ...]",
  "                        Network addresses that must be reachable before",
  "                        starting the benchmark",
  "  --port PORT           Port to listen for messages from the node",
  "  --local               Bind the listener to 127.0.0.1 only",
  "  --honest              Make every sent transaction a sample transaction",
  "  --config CONFIG       YAML file with run parameters (flags override it)",
  "  --log-level \x7bDEBUG,INFO,WARNING,ERROR\x7d",
  "  --log-file LOG_FILE   Also write logs to this file (rotated)",
  "  --json-logs           Emit logs as JSON lines",
  "  --version             show program's version number and exit"]

def versionText : String := paragraph [programName ++ " 1.0.0"]

def misuseLine (message : String) : String :=
  programName ++ ": error: " ++ message

end BurstLoad.CommandLine
