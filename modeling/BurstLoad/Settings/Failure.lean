import BurstLoad.Value
import BurstLoad.Yaml.Failure

/-!
Why a configuration is refused. Most causes are rejections with a message of their own; the others
arise where a check meets a value of a type that it cannot handle.
-/

set_option autoImplicit false

namespace BurstLoad.Settings

/-- The least size of a transaction, which its header fills. -/
def minSize : Nat := 8

/-- The greatest size of a transaction, the most that a four-byte length can announce. -/
def maxSize : Nat := 4294967295

inductive Rejection where
  | address (given : Value)
  | sizeNotInteger
  | sizeTooSmall
  | sizeTooLarge
  | rate
  | port
  | burstDuration
  | probeDelay
  | unknownKeys (keys : List String)
  | missing (key : String)
  | unreadable (path reason : String)
  | malformed (path reason : String)
  | notMapping (path : String)

def Rejection.message : Rejection → String
  | .address v => "Invalid socket address format: " ++ v.display
  | .sizeNotInteger => "The size of transactions must be a non-negative integer"
  | .sizeTooSmall => "Transaction size must be at least " ++ toString minSize ++ " bytes"
  | .sizeTooLarge => "Transaction size must be at most " ++ toString maxSize ++ " bytes"
  | .rate => "The rate of transactions must be a non-negative integer"
  | .port => "The listening port must be an integer in 0-65535"
  | .burstDuration => "Burst duration must be positive"
  | .probeDelay => "Probe delay cannot be negative"
  | .unknownKeys keys => "Unknown configuration keys: " ++ ", ".intercalate keys
  | .missing key => "Missing required configuration value: " ++ key
  | .unreadable path reason => "Cannot read configuration file " ++ path ++ ": " ++ reason
  | .malformed path reason => "Invalid YAML in " ++ path ++ ": " ++ reason
  | .notMapping path => "Configuration file " ++ path ++ " must contain a mapping"

/-- How a check compares a value with zero. -/
inductive Comparison where
  | atMost
  | below
  deriving Repr, DecidableEq

def Comparison.symbol : Comparison → String
  | .atMost => "<="
  | .below => "<"

inductive Failure where
  | rejected (cause : Rejection)
  -- unknown keys of which some are no texts, so that they cannot be sorted and shown
  | strangeKeys (keys : List Value)
  -- a value that can change, where it is to be a key
  | unhashable (given : Value)
  -- a value that is no collection, where it is asked for its elements
  | noElements (given : Value)
  -- a value that is no number, where it is compared with zero
  | noOrder (given : Value) (comparison : Comparison)
  -- a value that is no number, where it is divided
  | noQuotient (given : Value)
  -- a rejection whose message would show a value that has no text
  | unshowable
  -- a duration beyond the floating-point range
  | overflow
  -- a file that is not text in UTF-8
  | undecodable
  -- a value whose keys have no values, in the place of a mapping
  | noMapping
  -- something in a row of pairs that is no collection, or one that is no pair
  | uncollected (place : Nat)
  | unpaired (place count : Nat)
  -- an override of the name under which the entries of a file are handed over
  | nameTaken (name : String)
  -- a path that cannot even be asked for
  | unusablePath
  -- a scalar that does not read as the type it claims
  | unconvertible (misfit : Yaml.Misfit)
  -- a rate below zero that was not noticed before
  | negativeRate (rate : Int)
  -- a draft that gives no configuration though all its checks pass; there is none
  | unsettled

def Failure.isRejection : Failure → Bool
  | .rejected _ => true
  | _ => false

/-- The message of a failure that names its cause. The one for several keys depends on the order in
which they happen to be compared. -/
def Failure.message? : Failure → Option String
  | .rejected cause => some cause.message
  | .strangeKeys [key] =>
    some ("sequence item 0: expected str instance, " ++ key.typeName ++ " found")
  | .unhashable v => some ("unhashable type: '" ++ v.typeName ++ "'")
  | .noElements v => some ("'" ++ v.typeName ++ "' object is not iterable")
  | .noOrder v comparison =>
    some ("'" ++ comparison.symbol ++ "' not supported between instances of '" ++ v.typeName ++
      "' and 'int'")
  | .noQuotient v =>
    some ("unsupported operand type(s) for /: '" ++ v.typeName ++ "' and 'float'")
  | .uncollected place =>
    some ("cannot convert dictionary update sequence element #" ++ toString place ++ " to a sequence")
  | .unpaired place count =>
    some ("dictionary update sequence element #" ++ toString place ++ " has length " ++
      toString count ++ "; 2 is required")
  | _ => none

end BurstLoad.Settings
