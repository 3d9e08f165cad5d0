/-!
What can be wrong with a frame: its stream ends inside it, or it announces more than is allowed.
-/

set_option autoImplicit false

namespace BurstLoad.Frame

inductive Error where
  -- the stream ended after one to three bytes of the length
  | headerCut (got : Nat)
  -- the stream ended inside the body
  | bodyCut (got length : Nat)
  | tooLarge (length limit : Int)
  deriving Repr, DecidableEq

def Error.message : Error → String
  | .headerCut got => "connection closed inside frame header (" ++ toString got ++ " bytes)"
  | .bodyCut got length =>
    "connection closed inside frame body (" ++ toString got ++ "/" ++ toString length ++ " bytes)"
  | .tooLarge length limit =>
    "frame of " ++ toString length ++ " bytes exceeds limit of " ++ toString limit ++ " bytes"

end BurstLoad.Frame
