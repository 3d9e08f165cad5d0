import BurstLoad.Proofs.Frame.Decoder
import BurstLoad.Proofs.Link
import Mathlib.Algebra.Ring.Nat

/-! Sending payloads, one after the other, on a connection whose writes follow a plan. What becomes of
each send can be told from the plan beforehand. The counters grow with the sends that succeed, and the
connection takes whole frames only: those of the sends that succeed and of the sends that fail while
they drain. -/

set_option autoImplicit false

namespace BurstLoad

theorem Frame.Error.message_ne_empty (e : Error) : e.message ≠ "" := by
  unfold message
  cases e <;> simp only [ne_eq, String.append_eq_empty_iff] <;> simp

namespace Fault

/-- An error of the network, of a kind that has a name. -/
def IsNamed (f : Fault) : Prop :=
  f.isNetwork = true ∧ f.kind ≠ ""

theorem textOrKind_ne_empty {f : Fault} (named : f.kind ≠ "") : f.textOrKind ≠ "" := by
  unfold textOrKind
  split
  · exact named
  · next filled => simpa using filled

theorem IsNamed.onConnection {f : Fault} (named : f.IsNamed) :
    f.onConnection = .transport f.textOrKind :=
  if_pos named.1

end Fault

/-- Whole frames are decoded as they were written, in whichever chunks they come. -/
theorem Frame.Decoder.feedAll_wraps {limit : Int} {payloads chunks : List Bytes}
    (fits : ∀ p ∈ payloads, Fits limit p) (stream : chunks.flatten = (payloads.map wrap).flatten) :
    (fresh limit).feedAll chunks = ⟨fresh limit, payloads, none⟩ := by
  have whole : split limit chunks.flatten = ⟨payloads, [], none⟩ := by
    rw [stream, ← List.flatMap_def, ← List.append_nil (payloads.flatMap wrap),
      split_flatMap_wrap_append fits, split_of_partial (.nil limit), List.append_nil]
  rw [feedAll_fresh_of_allowed (by rw [whole]), whole]
  rfl

namespace Link

/-- What becomes of a send. -/
inductive Fate where
  | passes
  -- a fault comes before any byte is taken
  | refused (fault : Fault)
  -- a fault comes while the frame drains
  | cut (fault : Fault)
  -- the payload is longer than what a frame can announce
  | oversized

/-- A payload, and what becomes of its send. -/
structure Entry where
  payload : Bytes
  fate : Fate

namespace Entry

/-- What the sender is told. -/
def answer (e : Entry) : Option Fault :=
  match e.fate with
  | .passes => none
  | .refused fault | .cut fault => some (.transport fault.textOrKind)
  | .oversized => some (.frame (.tooLarge e.payload.length Frame.maxLength))

/-- The payload, if its send succeeds. -/
def sent? (e : Entry) : Option Bytes :=
  match e.fate with
  | .passes => some e.payload
  | .refused _ | .cut _ | .oversized => none

/-- The payload, if its frame gets onto the connection. -/
def taken? (e : Entry) : Option Bytes :=
  match e.fate with
  | .passes | .cut _ => some e.payload
  | .refused _ | .oversized => none

/-- The write that the next send comes to. -/
def nextWrite (e : Entry) (place : Nat) : Nat :=
  match e.fate with
  | .passes | .refused _ | .cut _ => place + 1
  | .oversized => place

end Entry

/-- The payloads of the sends that succeed. -/
def sent (entries : List Entry) : List Bytes :=
  entries.filterMap Entry.sent?

/-- The payloads whose frames get onto the connection. -/
def taken (entries : List Entry) : List Bytes :=
  entries.filterMap Entry.taken?

end Link

namespace Network

def WritePlan.fate (p : WritePlan) : Link.Fate :=
  match p.fault with
  | none => .passes
  | some fault => if p.refused then .refused fault else .cut fault

namespace WirePlan

def entry (plan : WirePlan) (place : Nat) (payload : Bytes) : Link.Entry where
  payload
  fate := if Bytes.maxWord < payload.length then .oversized else (plan.writes place).fate

/-- What becomes of payloads that are sent one after the other, from a write on. A payload that no frame
can hold comes to no write. -/
def entries (plan : WirePlan) : Nat → List Bytes → List Link.Entry
  | _, [] => []
  | place, payload :: rest =>
    let e := plan.entry place payload
    e :: plan.entries (e.nextWrite place) rest

/-- The writes meet no errors but those of the network, all of kinds that have names. -/
def HasNamedFaults (plan : WirePlan) : Prop :=
  ∀ place fault, (plan.writes place).fault = some fault → fault.IsNamed

end WirePlan

end Network

namespace Link

/-- Sends a payload: its frame is written, and the send ends when that has drained. -/
def send (l : Link) (now : Time) (payload : Bytes) : Link × Option Fault :=
  let (l, flight) := l.launch now payload
  l.land flight

/-- Sends payloads one after the other, each at its time, whether or not the sends before succeeded. -/
def sendAll (l : Link) : List (Time × Bytes) → Link × List (Option Fault)
  | [] => (l, [])
  | (now, payload) :: rest =>
    let (next, answer) := l.send now payload
    let (last, answers) := next.sendAll rest
    (last, answer :: answers)

/-- The bytes of a frame around a payload. -/
def frameSize (payload : Bytes) : Nat :=
  Frame.headerSize + payload.length

/-- From one state of a connection to another some sends took place, and nothing else. -/
structure Adds (entries : List Entry) (l next : Link) : Prop where
  plan : next.wire.plan = l.wire.plan
  writes : next.wire.writes = entries.foldl (fun place e => e.nextWrite place) l.wire.writes
  framesSent : next.framesSent = l.framesSent + (sent entries).length
  bytesSent : next.bytesSent = l.bytesSent + ((sent entries).map frameSize).sum
  taken : next.wire.taken = l.wire.taken ++ (taken entries).map Frame.wrap

theorem Adds.refl (l : Link) : Adds [] l l :=
  ⟨rfl, rfl, rfl, rfl, by simp [Link.taken]⟩

theorem Adds.trans {first second : List Entry} {l m next : Link} (adds : Adds first l m)
    (more : Adds second m next) : Adds (first ++ second) l next where
  plan := more.plan.trans adds.plan
  writes := by rw [List.foldl_append, more.writes, adds.writes]
  framesSent := by
    rw [more.framesSent, adds.framesSent, sent, sent, sent, List.filterMap_append, List.length_append,
      Nat.add_assoc]
  bytesSent := by
    rw [more.bytesSent, adds.bytesSent, sent, sent, sent, List.filterMap_append, List.map_append,
      List.sum_append, Nat.add_assoc]
  taken := by
    rw [more.taken, adds.taken, Link.taken, Link.taken, Link.taken, List.filterMap_append,
      List.map_append, List.append_assoc]

/-! One send. -/

variable {l : Link} {payload : Bytes}

theorem send_of_oversized (long : Bytes.maxWord < payload.length) (now : Time) :
    l.send now payload = (l, some (.frame (.tooLarge payload.length Frame.maxLength))) := by
  have refused : Frame.encode Frame.maxLength payload =
      .error (.tooLarge payload.length Frame.maxLength) := by
    rw [Frame.encode, if_pos (by unfold Frame.maxLength; omega)]
  simp [send, launch, refused, land]

/-- A payload that a frame can hold is told what the write of its frame meets. -/
theorem send_of_short (short : payload.length ≤ Bytes.maxWord) (now : Time) :
    l.send now payload =
      match l.wire.write now (Frame.wrap payload) with
      | (wire, .error fault) => ({ l with wire }, some fault.onConnection)
      | (wire, .ok draining) =>
        { l with wire }.land ⟨payload, draining.delay, draining.fault.map Fault.onConnection⟩ := by
  have framed : Frame.encode Frame.maxLength payload = .ok (Frame.wrap payload) :=
    Frame.encode_maxLength (Bytes.lt_wordCount_iff.mpr short)
  rw [send, launch, framed]
  dsimp only
  obtain ⟨wire, fault | draining⟩ := l.wire.write now (Frame.wrap payload) <;> rfl

/-- A send is told what its entry says, and does to the connection what its entry says. -/
theorem send_entry (named : l.wire.plan.HasNamedFaults) (now : Time) (payload : Bytes) :
    (l.send now payload).2 = (l.wire.plan.entry l.wire.writes payload).answer ∧
      Adds [l.wire.plan.entry l.wire.writes payload] l (l.send now payload).1 := by
  by_cases long : Bytes.maxWord < payload.length
  · rw [send_of_oversized long, Network.WirePlan.entry, if_pos long]
    exact ⟨rfl, rfl, rfl, rfl, rfl, (List.append_nil _).symm⟩
  · rw [send_of_short (Nat.le_of_not_lt long), Network.WirePlan.entry, if_neg long]
    have size : l.bytesSent + Frame.headerSize + payload.length = l.bytesSent + (frameSize payload + 0) :=
      Nat.add_assoc _ _ _
    have taken : (l.wire.written.push (now, Frame.wrap payload)).toList.map Prod.snd =
        l.wire.taken ++ [Frame.wrap payload] := by
      simp [Network.Wire.taken]
    unfold Network.Wire.write Network.WritePlan.fate
    dsimp only
    -- The write meets no fault, or one before its bytes are taken, or one after.
    cases met : (l.wire.plan.writes l.wire.writes).fault with
    | none =>
      cases (l.wire.plan.writes l.wire.writes).refused <;> exact ⟨rfl, rfl, rfl, rfl, size, taken⟩
    | some fault =>
      have told := (named _ _ met).onConnection
      cases (l.wire.plan.writes l.wire.writes).refused with
      | true => exact ⟨congrArg some told, rfl, rfl, rfl, rfl, (List.append_nil _).symm⟩
      | false => exact ⟨congrArg some told, rfl, rfl, rfl, rfl, taken⟩

/-- An error that a send is told is one of the connection, and has a text. -/
theorem isTransport_of_answer {plan : Network.WirePlan} (named : plan.HasNamedFaults) {place : Nat}
    {fault : Fault} (told : (plan.entry place payload).answer = some fault) :
    fault.isTransport = true ∧ fault.text ≠ "" := by
  unfold Network.WirePlan.entry at told
  split at told
  · obtain rfl := Option.some.inj told
    exact ⟨rfl, Frame.Error.message_ne_empty (.tooLarge payload.length Frame.maxLength)⟩
  · have cause : ∃ met, (plan.writes place).fault = some met ∧ fault = .transport met.textOrKind := by
      unfold Network.WritePlan.fate at told
      split at told
      · cases told
      · next met =>
        refine ⟨_, met, ?_⟩
        split at told <;> exact (Option.some.inj told).symm
    obtain ⟨met, planned, rfl⟩ := cause
    exact ⟨rfl, Fault.textOrKind_ne_empty (named place met planned).2⟩

theorem sent?_of_answer {e : Entry} {fault : Fault} (told : e.answer = some fault) :
    e.sent? = none := by
  obtain ⟨payload, fate⟩ := e
  cases fate with
  | passes => cases told
  | refused | cut | oversized => rfl

/-- A send that fails leaves the counters as they are. -/
theorem send_failed (named : l.wire.plan.HasNamedFaults) {now : Time} {fault : Fault}
    (failed : (l.send now payload).2 = some fault) :
    fault.isTransport = true ∧ fault.text ≠ "" ∧
      (l.send now payload).1.framesSent = l.framesSent ∧
      (l.send now payload).1.bytesSent = l.bytesSent := by
  obtain ⟨answer, adds⟩ := send_entry named now payload
  rw [failed] at answer
  have unsent : sent [l.wire.plan.entry l.wire.writes payload] = [] :=
    List.filterMap_cons_none (sent?_of_answer answer.symm)
  obtain ⟨isTransport, text⟩ := isTransport_of_answer named answer.symm
  refine ⟨isTransport, text, ?_, ?_⟩
  · rw [adds.framesSent, unsent, List.length_nil, Nat.add_zero]
  · rw [adds.bytesSent, unsent, List.map_nil, List.sum_nil, Nat.add_zero]

/-! A row of sends. -/

/-- All sends are told what their entries say, and add up on the connection. -/
theorem sendAll_entries (named : l.wire.plan.HasNamedFaults) (sends : List (Time × Bytes)) :
    (l.sendAll sends).2 =
        (l.wire.plan.entries l.wire.writes (sends.map Prod.snd)).map Entry.answer ∧
      Adds (l.wire.plan.entries l.wire.writes (sends.map Prod.snd)) l (l.sendAll sends).1 := by
  induction sends generalizing l with
  | nil => exact ⟨rfl, .refl l⟩
  | cons first rest ih =>
    obtain ⟨now, payload⟩ := first
    obtain ⟨answer, adds⟩ := send_entry named now payload
    -- The sends that follow come to the writes after those of the first.
    have following := ih (l := (l.send now payload).1) (adds.plan ▸ named)
    rw [adds.plan, adds.writes] at following
    obtain ⟨answers, more⟩ := following
    exact ⟨congrArg₂ List.cons answer answers, adds.trans more⟩

/-- A frame that gets onto the connection is one that a length can announce. -/
theorem length_of_mem_taken {plan : Network.WirePlan} {place : Nat} {payloads : List Bytes} {p : Bytes}
    (member : p ∈ taken (plan.entries place payloads)) : p.length < Bytes.wordCount := by
  induction payloads generalizing place with
  | nil => cases member
  | cons payload rest ih =>
    obtain ⟨e, inside, same⟩ := List.mem_filterMap.mp member
    rw [Network.WirePlan.entries] at inside
    obtain rfl | inside := List.mem_cons.mp inside
    · unfold Network.WirePlan.entry at same
      split at same
      · cases same
      · next short =>
        have held : payload = p := by
          unfold Entry.taken? at same
          split at same <;> first | exact Option.some.inj same | cases same
        rw [← held]
        exact Bytes.lt_wordCount_iff.mpr (Nat.le_of_not_lt short)
    · exact ih (List.mem_filterMap.mpr ⟨e, inside, same⟩)

/-- The books of a connection over some sends: what the senders were told, the counters, the frames that
got onto the connection, what a decoder makes of them, and how one more send can fail. -/
structure KeepsBooks (entries : List Entry) (sends : List (Time × Bytes)) (start : Link) : Prop where
  answers : (start.sendAll sends).2 = entries.map Entry.answer
  framesSent : (start.sendAll sends).1.framesSent = (sent entries).length
  bytesSent : (start.sendAll sends).1.bytesSent = ((sent entries).map fun p => 4 + p.length).sum
  encoded : (taken entries).mapM (Frame.encode Frame.maxLength) = .ok (start.sendAll sends).1.wire.taken
  decoded : ∀ (limit : Int) (chunks : List Bytes), (∀ p ∈ taken entries, p.length ≤ limit) →
    chunks.flatten = (start.sendAll sends).1.wire.taken.flatten →
    (Frame.Decoder.fresh limit).feedAll chunks = ⟨.fresh limit, taken entries, none⟩
  failed : ∀ now payload fault, ((start.sendAll sends).1.send now payload).2 = some fault →
    fault.isTransport = true ∧ fault.text ≠ "" ∧
      ((start.sendAll sends).1.send now payload).1.framesSent = (start.sendAll sends).1.framesSent ∧
      ((start.sendAll sends).1.send now payload).1.bytesSent = (start.sendAll sends).1.bytesSent
  oversized : ∀ now payload, Bytes.maxWord < List.length payload →
    (start.sendAll sends).1.send now payload =
      ((start.sendAll sends).1, some (.frame (.tooLarge payload.length Frame.maxLength)))

/-- A connection keeps its books over all sends, whatever its writes meet. -/
theorem keepsBooks_sendAll {plan : Network.WirePlan} (named : plan.HasNamedFaults) (address : Endpoint)
    (reader : Frame.Reader) (sends : List (Time × Bytes)) :
    KeepsBooks (plan.entries 0 (sends.map Prod.snd)) sends { wire := { address, plan }, reader } := by
  obtain ⟨answers, adds⟩ := sendAll_entries (l := { wire := { address, plan }, reader }) named sends
  have empty : Network.Wire.taken { address, plan } = [] := rfl
  have frames := adds.taken
  rw [empty, List.nil_append] at frames
  refine ⟨answers, adds.framesSent.trans (Nat.zero_add _), adds.bytesSent.trans (Nat.zero_add _), ?_, ?_,
    fun now payload fault => send_failed (adds.plan ▸ named),
    fun now payload long => send_of_oversized long now⟩
  · rw [frames]
    exact Frame.mapM_encode_maxLength fun p => length_of_mem_taken
  · intro limit chunks allowed stream
    rw [frames] at stream
    exact Frame.Decoder.feedAll_wraps (fun p member => ⟨allowed p member, length_of_mem_taken member⟩) stream

/-- The second write is refused without a text, the third one is cut. -/
def unsteady : Network.WirePlan where
  writes
    | 1 => { fault := some (.network "BrokenPipeError" ""), refused := true }
    | 2 => { delay := 5, fault := some (.network "ConnectionResetError" "[Errno 104] reset") }
    | _ => {}
  closeFault := none

def unsteadySends : List (Time × Bytes) :=
  [(0, [7]), (1, [8, 8]), (2, [9]), (9, [])]

theorem keepsBooks_unsteady :
    unsteady.HasNamedFaults ∧
      KeepsBooks
        [⟨[7], .passes⟩, ⟨[8, 8], .refused (.network "BrokenPipeError" "")⟩,
          ⟨[9], .cut (.network "ConnectionResetError" "[Errno 104] reset")⟩, ⟨[], .passes⟩]
        unsteadySends { wire := { address := default, plan := unsteady } } ∧
      (sendAll { wire := { address := default, plan := unsteady } } unsteadySends).2 =
        [none, some (.transport "BrokenPipeError"), some (.transport "[Errno 104] reset"), none] ∧
      (sendAll { wire := { address := default, plan := unsteady } } unsteadySends).1.bytesSent = 9 := by
  have named : unsteady.HasNamedFaults := by
    intro place fault met
    unfold unsteady at met
    dsimp only at met
    split at met <;> cases met
    · exact ⟨rfl, by decide⟩
    · exact ⟨rfl, by decide⟩
  have books := keepsBooks_sendAll named default {} unsteadySends
  exact ⟨named, books, books.answers, books.bytesSent⟩

end Link

end BurstLoad
