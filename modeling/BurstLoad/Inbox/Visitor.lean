import BurstLoad.Frame.Reader
import BurstLoad.Inbox.Receiver

/-!
One inbound connection. It is accepted first and begins to read in a turn of its own; whenever it is
woken later it takes frames as long as whole ones are there, until its stream ends or an error
closes it.
-/

set_option autoImplicit false

namespace BurstLoad

inductive VisitorStage where
  -- accepted, but not begun
  | accepted
  | reading
  | closed
  deriving Repr, DecidableEq

structure Visitor where
  name : String
  peer : Peer
  closeFault : Option Fault := none
  reader : Frame.Reader
  stage : VisitorStage := .accepted
  closes : Nat := 0

namespace Visitor

def faultNotice (peer : Peer) (fault : Fault) : Notice :=
  if fault.isFrame then
    ⟨.warning, .listener, "Malformed frame from " ++ peer.display ++ ": " ++ fault.text⟩
  else if fault.isNetwork then
    ⟨.warning, .listener, "Connection error from " ++ peer.display ++ ": " ++ fault.text⟩
  else ⟨.error, .listener, "Handler failed on frame from " ++ peer.display ++ ": " ++ fault.text⟩

def newNotice (peer : Peer) : Notice :=
  ⟨.debug, .listener, "New connection from " ++ peer.display⟩

def closedNotice (peer : Peer) : Notice :=
  ⟨.debug, .listener, "Connection closed: " ++ peer.display⟩

/-- Closes the connection. A network error on the way does not count; with any other one the
closing is not noted. -/
def close (v : Visitor) : Visitor × List Notice :=
  ({ v with stage := .closed, closes := v.closes + 1 },
    match v.closeFault with
    | none => [closedNotice v.peer]
    | some fault => if fault.isNetwork then [closedNotice v.peer] else [])

/-- Closes the connection after an error. -/
def closeAfter (v : Visitor) (fault : Fault) : Visitor × List Notice :=
  let (v, notices) := v.close
  (v, faultNotice v.peer fault :: notices)

def backlog (r : Frame.Reader) : Nat :=
  match r.awaited with
  | some (.body _) => r.buffer.length + 1
  | _ => r.buffer.length

theorem backlog_le_of_readBody {r r' : Frame.Reader} {length : Nat} {frame : Bytes}
    (h : r.readBody length = (r', .frame frame)) :
    backlog r' ≤ r.buffer.length := by
  unfold Frame.Reader.readBody at h
  split at h
  · split at h <;> simp at h
  · simp only [Prod.mk.injEq] at h
    obtain ⟨rfl, _⟩ := h
    simp [backlog]

theorem backlog_le_of_beginBody {r r' : Frame.Reader} {length : Nat} {frame : Bytes}
    (h : r.beginBody length = (r', .frame frame)) :
    backlog r' ≤ r.buffer.length := by
  unfold Frame.Reader.beginBody at h
  split at h
  · simp at h
  · exact backlog_le_of_readBody h

theorem backlog_lt_of_readHeader {r r' : Frame.Reader} {frame : Bytes}
    (h : r.readHeader = (r', .frame frame)) : backlog r' < r.buffer.length := by
  unfold Frame.Reader.readHeader at h
  split at h
  · next length rest word =>
    have shorter := Bytes.length_of_takeWord? word
    split at h
    · simp at h
    · have := backlog_le_of_beginBody h
      simp only at this
      omega
  · split at h
    · split at h <;> simp at h
    · simp at h

theorem backlog_lt_of_read {r r' : Frame.Reader} {frame : Bytes}
    (h : r.read = (r', .frame frame)) : backlog r' < backlog r := by
  unfold Frame.Reader.read Frame.Reader.resume at h
  split at h
  · next length awaited =>
    have := backlog_le_of_readBody h
    simp only at awaited this
    simp only [backlog, awaited] at this ⊢
    omega
  · next awaited =>
    have := backlog_lt_of_readHeader h
    simp only at awaited this
    simpa only [backlog, awaited] using this
  · simp at h
  · next awaited _ =>
    have := backlog_lt_of_readHeader h
    simp only at awaited this
    simpa only [backlog, awaited] using this

def drain (receiver : Receiver) (v : Visitor) : Receiver × Visitor × List Notice :=
  match _step : v.reader.read with
  | (reader, .pending) => (receiver, { v with reader }, [])
  | (reader, .finished) =>
    let (v, notices) := { v with reader }.close
    (receiver, v, notices)
  | (reader, .failed fault) =>
    let (v, notices) := { v with reader }.closeAfter fault
    (receiver, v, notices)
  | (reader, .frame frame) =>
    let (receiver, notices, fault?) := receiver.dispatch frame v.peer
    match fault? with
    | some fault =>
      let (v, more) := { v with reader }.closeAfter fault
      (receiver, v, notices ++ more)
    | none =>
      let (receiver, v, more) := drain receiver { v with reader }
      (receiver, v, notices ++ more)
termination_by backlog v.reader
decreasing_by exact backlog_lt_of_read _step

def enter (receiver : Receiver) (v : Visitor) : Receiver × Visitor × List Notice :=
  let (receiver, v, notices) := drain receiver { v with stage := .reading }
  (receiver, v, newNotice v.peer :: notices)

def proceed (v : Visitor) (receiver : Receiver) : Receiver × Visitor × List Notice :=
  match v.stage with
  | .accepted => enter receiver v
  | .reading => drain receiver v
  | .closed => (receiver, v, [])

end Visitor

end BurstLoad
