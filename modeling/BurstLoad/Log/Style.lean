import BurstLoad.Log.Record
import BurstLoad.Text.Alphanumeric
import BurstLoad.Text.Json

/-!
Styles of log lines: by a pattern, by a pattern with the level in colour, or as a JSON object.
-/

set_option autoImplicit false

namespace BurstLoad.Log

inductive Style where
  | pattern (template : String) (dates : Option String)
  | coloured (template : String) (dates : Option String)
  | json
  deriving Repr, DecidableEq

namespace Style

def standardTemplate : String := "%(asctime)s.%(msecs)03d %(levelname)s %(name)s: %(message)s"

def standardDates : String := "%Y-%m-%dT%H:%M:%S"

def bareTemplate : String := "%(message)s"

def orBare (template : String) : String :=
  if template == "" then bareTemplate else template

/-- A letter, digit or underscore. -/
def isNameChar (c : Char) : Bool :=
  Text.isAlphanumeric c || c == '_'

/-- A letter that ends a conversion, be it a capital or a letter that has the same capital. -/
def endsField (c : Char) : Bool :=
  "diouxefgcrsaDIOUXEFGCRSA%İıſ".toList.contains c

/-- A text without the star or digits at its head. -/
def dropExtent : List Char → List Char
  | '*' :: rest => rest
  | s => s.dropWhile Text.isDecimal

/-- A text without the precision at its head. -/
def dropPrecision (s : List Char) : List Char :=
  match s with
  | '.' :: rest =>
    let after := dropExtent rest
    if after.length < rest.length then after else s
  | s => s

/-- Whether a conversion of a named field begins here. -/
def startsField (s : List Char) : Bool :=
  match s with
  | '%' :: '(' :: rest =>
    let name := rest.takeWhile isNameChar
    match name, rest.drop name.length with
    | _ :: _, ')' :: rest =>
      match dropPrecision (dropExtent (rest.dropWhile "#0+ -".toList.contains)) with
      | letter :: _ => endsField letter
      | [] => false
    | _, _ => false
  | _ => false

/-- Whether a condition holds of a text or of a part of it that reaches to its end. -/
def anyEnd (p : List Char → Bool) : List Char → Bool
  | [] => p []
  | c :: rest => p (c :: rest) || anyEnd p rest

/-- A usable pattern has at least one conversion of a named field. -/
def isUsable (template : String) : Bool :=
  anyEnd startsField template.toList

def occursIn (part text : List Char) : Bool :=
  anyEnd part.isPrefixOf text

/-- The time of a record by a pattern; without one the milliseconds follow after a comma. A zero in
the pattern ends it too early. -/
def timeText (dates : Option String) (r : Record) : Except Unwritable String := do
  let stamp ← r.stamp
  match dates.getD "" with
  | "" =>
    let millis ← r.filled ",%03d" (.values [r.millis])
    pure (stamp.format "%Y-%m-%d %H:%M:%S" ++ millis)
  | p =>
    if p.toList.contains '\x00' then .error (.template .invalid) else pure (stamp.format p)

/-- A line with the error of its record, if there is one, on lines of its own. -/
def withFault (line : String) : Option String → String
  | none => line
  | some fault => if line.endsWith "\n" then line ++ fault else line ++ "\n" ++ fault

/-- The fields of a record. Of the place in the program that speaks nothing is known. -/
def fieldsOf (r : Record) (level message : String) (time : Option String) :
    List (String × Value) := [
  ("name", .text r.logger), ("msg", r.template), ("args", r.arguments),
  ("levelname", .text level), ("levelno", r.rank), ("pathname", .text ""),
  ("filename", .text ""), ("module", .text ""), ("exc_info", .null), ("exc_text", .null),
  ("stack_info", .null), ("lineno", .int 0), ("funcName", .null), ("created", r.created),
  ("msecs", r.millis), ("threadName", .text "MainThread"), ("processName", .text "MainProcess"),
  ("message", .text message)] ++ (time.map fun t => ("asctime", Value.text t)).toList

/-- A record by a pattern, its level shown by a given name. A field that no record has makes the
pattern invalid. -/
def byPattern (template : String) (dates : Option String) (level : String) (r : Record) :
    Except Unwritable String := do
  let message ← r.message
  let time ← if occursIn "%(asctime)".toList template.toList then (timeText dates r).map some
    else pure none
  let fields := (fieldsOf r level message time).map fun (k, v) => (Value.text k, v)
  match Text.Template.fill template (.fields fields) with
  | .ok line => .ok (withFault line r.fault)
  | .error .missing => .error (.template .invalid)
  | .error e => .error (.template e)

def colour (level : String) : String :=
  match level with
  | "DEBUG" => "\x1b[36m"
  | "INFO" => "\x1b[32m"
  | "WARNING" => "\x1b[33m"
  | "ERROR" => "\x1b[31m"
  | "CRITICAL" => "\x1b[35m"
  | _ => ""

def colourEnd : String := "\x1b[0m"

def asJson (r : Record) : Except Unwritable String := do
  let moment ← r.moment
  let message ← r.message
  let fields := [("timestamp", moment.iso), ("level", r.level), ("logger", r.logger),
    ("message", message)] ++ (r.fault.map fun f => ("exception", f)).toList
  pure ("\x7b" ++ ", ".intercalate (fields.map fun (k, v) =>
    Text.Json.quote k ++ ": " ++ Text.Json.quote v) ++ "\x7d")

/-- A record as a line, without its end. -/
def render (s : Style) (r : Record) : Except Unwritable String :=
  match s with
  | .pattern template dates => byPattern template dates r.level r
  | .coloured template dates =>
    byPattern template dates (colour r.level ++ r.level ++ colourEnd) r
  | .json => asJson r

end Style

end BurstLoad.Log
