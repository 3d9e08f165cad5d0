import BurstLoad.Inbox.Basic
import BurstLoad.Proofs.Frame.Reader

/-! One turn of a connection. It hands over the frames that are at hand, up to the first one that is
answered with an error, and ends with what the stream of the connection comes to; what was read in
earlier turns does not matter but for the bytes that they left. -/

set_option autoImplicit false

namespace BurstLoad

namespace Receiver

/-- The receiver after some frames. -/
def takeAll (r : Receiver) (frames : List Bytes) : Receiver :=
  { r with frames := r.frames + frames.length, bytes := r.bytes + frames.flatten.length }

/-- What is noted of some frames. -/
def noticesOf (r : Receiver) (peer : Peer) (frames : List Bytes) : List Notice :=
  if r.verbose then frames.map fun frame => noticeOf frame peer else []

@[simp] theorem takeAll_nil (r : Receiver) : r.takeAll [] = r := rfl

@[simp] theorem takeAll_faults (r : Receiver) (frames : List Bytes) :
    (r.takeAll frames).faults = r.faults := rfl

@[simp] theorem takeAll_verbose (r : Receiver) (frames : List Bytes) :
    (r.takeAll frames).verbose = r.verbose := rfl

@[simp] theorem noticesOf_nil (r : Receiver) (peer : Peer) : r.noticesOf peer [] = [] := by
  simp [noticesOf]

theorem noticesOf_append (r : Receiver) (peer : Peer) (first rest : List Bytes) :
    r.noticesOf peer (first ++ rest) = r.noticesOf peer first ++ r.noticesOf peer rest := by
  unfold noticesOf
  split <;> simp

theorem takeAll_append (r : Receiver) (first rest : List Bytes) :
    r.takeAll (first ++ rest) = (r.takeAll first).takeAll rest := by
  simp [takeAll, Nat.add_assoc]

theorem dispatch_eq (r : Receiver) (frame : Bytes) (peer : Peer) :
    r.dispatch frame peer = (r.takeAll [frame], r.noticesOf peer [frame], r.faults frame) := by
  simp [dispatch, takeAll, noticesOf]

end Receiver

namespace Frame

/-- What reading comes to while frames are handed over: the frames, the reader after them, and the
reading or the error that ends it. -/
structure Service where
  frames : List Bytes
  reader : Reader
  last : Reading

/-- Reads and hands over frames, up to the first reading that is none or the first frame that is
answered with an error. -/
def Reader.serve (faults : Bytes → Option Fault) (r : Reader) : Service :=
  match _step : r.read with
  | (next, .frame frame) =>
    match faults frame with
    | some fault => ⟨[frame], next, .failed fault⟩
    | none =>
      let more := next.serve faults
      { more with frames := frame :: more.frames }
  | (next, reading) => ⟨[], next, reading⟩
termination_by Visitor.backlog r
decreasing_by exact Visitor.backlog_lt_of_read _step

section Serve

variable {faults : Bytes → Option Fault} {r next : Reader} {frame : Bytes}

theorem Reader.serve_of_frame (step : r.read = (next, .frame frame)) :
    r.serve faults = match faults frame with
      | some fault => ⟨[frame], next, .failed fault⟩
      | none => { next.serve faults with frames := frame :: (next.serve faults).frames } := by
  rw [serve]
  split
  · next other =>
    rw [step] at other
    cases other
    rfl
  · next distinct other =>
    rw [step] at other
    cases other
    exact (distinct frame rfl).elim

theorem Reader.serve_of_end {reading : Reading} (step : r.read = (next, reading))
    (last : ∀ body, reading ≠ .frame body) : r.serve faults = ⟨[], next, reading⟩ := by
  rw [serve]
  split
  · next body other =>
    rw [step] at other
    cases other
    exact (last _ rfl).elim
  · next other =>
    rw [step] at other
    cases other
    rfl

end Serve

end Frame

namespace Visitor

open BurstLoad.Frame (Reading Reader)

/-- What a connection does about the end of a turn. -/
def conclude (v : Visitor) : Reading → Visitor × List Notice
  | .finished => v.close
  | .failed fault => v.closeAfter fault
  | .pending | .frame _ => (v, [])

section Drain

variable {receiver : Receiver} {v : Visitor} {next : Reader} {frame : Bytes}

theorem drain_of_frame (step : v.reader.read = (next, .frame frame)) :
    drain receiver v = match receiver.faults frame with
      | some fault =>
        let ended := { v with reader := next }.closeAfter fault
        (receiver.takeAll [frame], ended.1, receiver.noticesOf v.peer [frame] ++ ended.2)
      | none =>
        let onward := drain (receiver.takeAll [frame]) { v with reader := next }
        (onward.1, onward.2.1, receiver.noticesOf v.peer [frame] ++ onward.2.2) := by
  rw [drain]
  split
  · next other => rw [step] at other; cases other
  · next other => rw [step] at other; cases other
  · next other => rw [step] at other; cases other
  · next other =>
    rw [step] at other
    cases other
    cases answer : receiver.faults frame <;> simp only [receiver.dispatch_eq, answer]

theorem drain_of_end {reading : Reading} (step : v.reader.read = (next, reading))
    (last : ∀ body, reading ≠ .frame body) :
    drain receiver v =
      let ended := { v with reader := next }.conclude reading
      (receiver, ended.1, ended.2) := by
  rw [drain]
  split
  · next other =>
    rw [step] at other
    cases other
    rfl
  · next other =>
    rw [step] at other
    cases other
    rfl
  · next other =>
    rw [step] at other
    cases other
    rfl
  · next other =>
    rw [step] at other
    cases other
    exact (last _ rfl).elim

end Drain

/-- All that a turn does follows from the frames that it hands over and from its end. -/
theorem drain_eq (receiver : Receiver) (v : Visitor) :
    drain receiver v =
      let turn := v.reader.serve receiver.faults
      let ended := { v with reader := turn.reader }.conclude turn.last
      (receiver.takeAll turn.frames, ended.1, receiver.noticesOf v.peer turn.frames ++ ended.2) := by
  -- On the reader: the receiver grows with each frame, but the answers that it gives stay.
  generalize answers : receiver.faults = faults
  generalize begins : v.reader = r
  induction r using Frame.Reader.serve.induct faults generalizing receiver v with
  | case1 r next frame step fault answer =>
    rw [drain_of_frame (begins ▸ step), Reader.serve_of_frame step, answers, answer]
    rfl
  | case2 r next frame step answer ih =>
    rw [drain_of_frame (begins ▸ step), Reader.serve_of_frame step, answers, answer]
    have onward := ih (receiver.takeAll [frame]) { v with reader := next } answers rfl
    have noted := receiver.noticesOf_append v.peer [frame] (next.serve faults).frames
    have counted := receiver.takeAll_append [frame] (next.serve faults).frames
    rw [List.singleton_append] at noted counted
    rw [onward]
    dsimp only
    rw [noted, List.append_assoc, counted]
    rfl
  | case3 r next reading last step =>
    rw [drain_of_end (begins ▸ step) last, Reader.serve_of_end step last]
    simp

end Visitor

end BurstLoad
