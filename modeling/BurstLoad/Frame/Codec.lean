import BurstLoad.Bytes
import BurstLoad.Frame.Error

/-!
Length-delimited frames: four bytes of length, then exactly that many bytes. `scan` reads one
frame off the head of a byte string; it reads back what `encode` wrote, whatever follows.
-/

set_option autoImplicit false

namespace BurstLoad.Frame

def headerSize : Nat := 4

def defaultLimit : Int := 8388608

/-- The outbound limit: the greatest length that four bytes hold. -/
def maxLength : Int := Bytes.maxWord

/-- A frame without regard to a limit; the length is taken modulo `2^32`. -/
def wrap (payload : Bytes) : Bytes :=
  Bytes.ofWord payload.length ++ payload

/-- The frame of a payload that is not longer than the limit. -/
def encode (limit : Int) (payload : Bytes) : Except Error Bytes :=
  if payload.length > limit then .error (.tooLarge payload.length limit) else .ok (wrap payload)

inductive Scan where
  -- less than a whole frame
  | incomplete
  -- the length of a frame that is not allowed
  | tooLarge (length : Nat)
  | frame (body rest : Bytes)
  deriving Repr, DecidableEq

def scan (limit : Int) (s : Bytes) : Scan :=
  match Bytes.takeWord? s with
  | none => .incomplete
  | some (length, rest) =>
    if length > limit then .tooLarge length
    else if rest.length < length then .incomplete
    else .frame (rest.take length) (rest.drop length)

theorem length_lt_of_scan_frame {limit : Int} {s body rest : Bytes}
    (h : scan limit s = .frame body rest) : rest.length < s.length := by
  unfold scan at h
  split at h
  · cases h
  · next length tail word =>
    have := Bytes.length_of_takeWord? word
    split at h
    · cases h
    · split at h
      · cases h
      · cases h
        simp
        omega

theorem scan_wrap_append {limit : Int} {payload : Bytes} (rest : Bytes)
    (fits : payload.length ≤ limit) (short : payload.length < Bytes.wordCount) :
    scan limit (wrap payload ++ rest) = .frame payload rest := by
  have word : payload.length % Bytes.wordCount = payload.length := Nat.mod_eq_of_lt short
  have allowed : ¬ limit < (payload.length : Int) := by omega
  simp [scan, wrap, List.append_assoc, Bytes.takeWord?_ofWord_append, word, allowed]

/-- All whole frames at the head, the bytes after them, and the length at which reading stopped
because it is not allowed. -/
structure Split where
  frames : List Bytes
  rest : Bytes
  oversized : Option Nat
  deriving Repr, DecidableEq

/-- Reads frames as long as whole and allowed ones stand at the head. -/
def split (limit : Int) (s : Bytes) : Split :=
  match _step : scan limit s with
  | .incomplete => ⟨[], s, none⟩
  | .tooLarge length => ⟨[], s, some length⟩
  | .frame body rest =>
    let more := split limit rest
    ⟨body :: more.frames, more.rest, more.oversized⟩
termination_by s.length
decreasing_by exact length_lt_of_scan_frame _step

end BurstLoad.Frame
