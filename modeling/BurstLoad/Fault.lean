import BurstLoad.Frame.Error

/-!
Errors that arise while a run is under way. A `network` fault comes from the operating system; the
others, `other` apart, are the program's own.
-/

set_option autoImplicit false

namespace BurstLoad

inductive Fault where
  | network (kind text : String)
  | general (text : String)
  | configuration (text : String)
  -- a node could not be reached, with the text of the reason if there is one
  | connect (address : String) (reason : Option String)
  -- a framed send or receive failed
  | transport (text : String)
  | malformed (text : String)
  -- a frame beyond a limit that need not be numbers
  | oversized (text : String)
  | frame (error : Frame.Error)
  | other (kind text : String)
  deriving Inhabited

namespace Fault

def kind : Fault → String
  | .network kind _ => kind
  | .general _ => "BenchClientError"
  | .configuration _ => "ConfigurationError"
  | .connect _ _ => "ConnectError"
  | .transport _ => "TransportError"
  | .malformed _ => "FrameError"
  | .oversized _ | .frame (.tooLarge _ _) => "FrameTooLarge"
  | .frame _ => "FrameError"
  | .other kind _ => kind

def text : Fault → String
  | .network _ text => text
  | .general text => text
  | .configuration text => text
  | .connect address none => "failed to connect to " ++ address
  | .connect address (some reason) => "failed to connect to " ++ address ++ ": " ++ reason
  | .transport text => text
  | .malformed text => text
  | .oversized text => text
  | .frame error => error.message
  | .other _ text => text

/-- An error of the operating system's network layer. -/
def isNetwork : Fault → Bool
  | .network _ _ => true
  | _ => false

def isFrame : Fault → Bool
  | .malformed _ | .oversized _ | .frame _ => true
  | _ => false

/-- A failed send or receive, malformed frames included. -/
def isTransport : Fault → Bool
  | .transport _ => true
  | f => f.isFrame

def isOwn : Fault → Bool
  | .network _ _ => false
  | .other _ _ => false
  | _ => true

/-- The text of an error, or the name of its kind where the text is empty. -/
def textOrKind (f : Fault) : String :=
  if f.text == "" then f.kind else f.text

/-- A network error on a live connection, as the caller of that connection sees it. -/
def onConnection (f : Fault) : Fault :=
  if f.isNetwork then .transport f.textOrKind else f

end Fault

end BurstLoad
