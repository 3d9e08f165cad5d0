import BurstLoad.Fault
import BurstLoad.Value

/-!
Errors by the names of their kinds. An error is made from arguments, which may be errors in turn;
its text follows from them. A network error with a number and a text takes the kind that the
number stands for, and may name a file.
-/

set_option autoImplicit false

namespace BurstLoad.Fault

/-- How an error is made, or a value among its arguments. -/
inductive Recipe where
  | value (v : Value)
  | error (kind : String) (arguments : List Recipe)
  deriving Inhabited

def networkKinds : List String := [
  "OSError", "ConnectionError", "BrokenPipeError", "ConnectionAbortedError",
  "ConnectionRefusedError", "ConnectionResetError", "FileExistsError", "FileNotFoundError",
  "InterruptedError", "IsADirectoryError", "NotADirectoryError", "PermissionError",
  "ProcessLookupError", "TimeoutError", "BlockingIOError", "ChildProcessError"]

/-- Other names for the most general kind of network errors. -/
def networkAliases : List String := ["IOError", "EnvironmentError"]

def kindOfNumber? (n : Int) : Option String :=
  match n with
  | 1 | 13 => some "PermissionError"
  | 2 => some "FileNotFoundError"
  | 3 => some "ProcessLookupError"
  | 4 => some "InterruptedError"
  | 10 => some "ChildProcessError"
  | 11 | 114 | 115 => some "BlockingIOError"
  | 17 => some "FileExistsError"
  | 20 => some "NotADirectoryError"
  | 21 => some "IsADirectoryError"
  | 32 | 108 => some "BrokenPipeError"
  | 103 => some "ConnectionAbortedError"
  | 104 => some "ConnectionResetError"
  | 110 => some "TimeoutError"
  | 111 => some "ConnectionRefusedError"
  | _ => none

/-- The kinds of errors in the form of a text, which show their first argument. -/
def formKinds : List String := ["SyntaxError", "IndentationError", "TabError"]

namespace Recipe

/-- Whether there is nothing at a place of the arguments. -/
def isNull : Option Recipe → Bool
  | none | some (.value .null) => true
  | _ => false

/-- A whole number, true and false as 1 and 0. -/
def number? : Recipe → Option Int
  | .value (.int n) => some n
  | .value (.bool b) => some (if b then 1 else 0)
  | _ => none

/-- Whether the arguments of a network error give it a number and a text. -/
def isNumbered (arguments : List Recipe) : Bool :=
  2 ≤ arguments.length && arguments.length ≤ 5

/-- The kind of a network error that is made under a name. -/
def networkKind (kind : String) (arguments : List Recipe) : String :=
  if kind == "OSError" || networkAliases.contains kind then
    match isNumbered arguments, (arguments.head?.bind number?).bind kindOfNumber? with
    | true, some special => special
    | _, _ => "OSError"
  else kind

/-- The file of a network error. For an operation that would block, a number in its place is none
but a count of characters. -/
def file? (kind : String) (arguments : List Recipe) : Option Recipe :=
  match isNumbered arguments, arguments[2]? with
  | true, some file =>
    if isNull (some file) then none
    else if networkKind kind arguments == "BlockingIOError" && file.number?.isSome then none
    else some file
  | _, _ => none

def isNetworkKind (kind : String) : Bool :=
  networkKinds.contains kind || networkAliases.contains kind

/-- The arguments that an error keeps: those of a network error lose what names files. -/
def kept (kind : String) (arguments : List Recipe) : List Recipe :=
  if isNetworkKind kind && (file? kind arguments).isSome then arguments.take 2 else arguments

/-- A character that cannot be encoded, or how many cannot. -/
def spotText (object : String) (start stop : Int) : String :=
  match object.toList[start.toNat]? with
  | some c =>
    if stop == start + 1 then
      " character '" ++ String.ofList (Text.codeEscape (Text.code c)) ++ "' in position " ++
        toString start
    else " characters in position " ++ toString start ++ "-" ++ toString (stop - 1)
  | none => " characters in position " ++ toString start ++ "-" ++ toString (stop - 1)

/-- The text of an error of the given kind with the texts of its arguments, each as it is shown on
its own and as it is shown among others. -/
def textOf (kind : String) (arguments : List Recipe) (shown : List (String × String)) : String :=
  let plain := match shown with
    | [] => ""
    | [(alone, _)] => alone
    | several => Value.parenthesised (several.map Prod.snd)
  let alone (i : Nat) := ((shown[i]?).map Prod.fst).getD ""
  let among (i : Nat) := ((shown[i]?).map Prod.snd).getD ""
  if isNetworkKind kind then
    if isNumbered arguments then
      let head := "[Errno " ++ alone 0 ++ "] " ++ alone 1
      match file? kind arguments, isNull arguments[4]? with
      | none, _ => head
      | some _, true => head ++ ": " ++ among 2
      | some _, false => head ++ ": " ++ among 2 ++ " -> " ++ among 4
    else plain
  else if formKinds.contains kind then
    if arguments.isEmpty then "None" else alone 0
  else match kind, arguments with
    | "ConnectError", [_] | "ConnectError", [_, .value .null] => "failed to connect to " ++ alone 0
    | "ConnectError", _ => "failed to connect to " ++ alone 0 ++ ": " ++ alone 1
    | "FrameTooLarge", _ =>
      "frame of " ++ alone 0 ++ " bytes exceeds limit of " ++ alone 1 ++ " bytes"
    | "KeyError", [_] => among 0
    | "UnicodeEncodeError", [_, .value (.text object), .value (.int start), .value (.int stop), _] =>
      "'" ++ alone 0 ++ "' codec can't encode" ++ spotText object start stop ++ ": " ++ alone 4
    | "UnicodeTranslateError", [.value (.text object), .value (.int start), .value (.int stop), _] =>
      "can't translate" ++ spotText object start stop ++ ": " ++ alone 3
    | _, _ => plain

mutual

def text : Recipe → String
  | .value v => v.plain
  | .error kind arguments => textOf kind arguments (texts arguments)

def display : Recipe → String
  | .value v => v.display
  | .error kind arguments =>
    let shown := texts arguments
    let name := if isNetworkKind kind then networkKind kind arguments else kind
    let parts := if kind == "ConnectError" || kind == "FrameTooLarge" then
        [Text.quote (textOf kind arguments shown)]
      else (shown.map Prod.snd).take (kept kind arguments).length
    name ++ "(" ++ ", ".intercalate parts ++ ")"

def texts : List Recipe → List (String × String)
  | [] => []
  | r :: rest => (r.text, r.display) :: texts rest

end

/-- Whether a count of characters in the place of a file is not whole. -/
def isPartial (arguments : List Recipe) : Bool :=
  match arguments with
  | _ :: _ :: .value (.float _) :: _ => isNumbered arguments
  | _ => false

/-- Whether an error of a kind can be made from arguments, those that are errors aside. -/
def admits (kind : String) (arguments : List Recipe) : Bool :=
  match kind, arguments with
  | "ConnectError", as => as.length == 1 || as.length == 2
  | "FrameTooLarge", as => as.length == 2
  | "UnicodeEncodeError", [.value (.text _), .value (.text _), .value (.int _), .value (.int _),
      .value (.text _)] => true
  | "UnicodeTranslateError", [.value (.text _), .value (.int _), .value (.int _),
      .value (.text _)] => true
  | "UnicodeEncodeError", _ | "UnicodeDecodeError", _ | "UnicodeTranslateError", _ => false
  | kind, as =>
    if formKinds.contains kind then as.length != 2
    else if isNetworkKind kind && networkKind kind as == "BlockingIOError" then !isPartial as
    else true

mutual

def isSound : Recipe → Bool
  | .value _ => true
  | .error kind arguments => admits kind arguments && areSound arguments

def areSound : List Recipe → Bool
  | [] => true
  | r :: rest => r.isSound && areSound rest

end

def fault : Recipe → Fault
  | .value v => .other "Exception" v.plain
  | .error kind arguments =>
    let text := text (.error kind arguments)
    match kind, arguments with
    | "ConnectError", address :: reason =>
      .connect address.text (if isNull reason.head? then none else reason.head?.map Recipe.text)
    | "FrameTooLarge", [.value (.int length), .value (.int limit)] =>
      .frame (.tooLarge length limit)
    | "FrameTooLarge", _ => .oversized text
    | "BenchClientError", _ => .general text
    | "ConfigurationError", _ => .configuration text
    | "TransportError", _ => .transport text
    | "FrameError", _ => .malformed text
    | kind, arguments =>
      if isNetworkKind kind then .network (networkKind kind arguments) text else .other kind text

end Recipe

/-- The kinds that an error belongs to, in alphabetical order: the program's own, errors of values
and errors of the operating system. -/
def families : Fault → List String
  | .network _ _ => ["OSError"]
  | .general _ => ["BenchClientError"]
  | .configuration _ => ["BenchClientError", "ConfigurationError", "ValueError"]
  | .connect _ _ => ["BenchClientError", "ConnectError"]
  | .transport _ => ["BenchClientError", "TransportError"]
  | .malformed _ => ["BenchClientError", "FrameError", "TransportError"]
  | .oversized _ | .frame (.tooLarge _ _) =>
    ["BenchClientError", "FrameError", "FrameTooLarge", "TransportError"]
  | .frame _ => ["BenchClientError", "FrameError", "TransportError"]
  | .other kind _ =>
    if ["ValueError", "UnicodeError", "UnicodeDecodeError", "UnicodeEncodeError",
      "UnicodeTranslateError"].contains kind then ["ValueError"] else []

end BurstLoad.Fault
