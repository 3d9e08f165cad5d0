import BurstLoad.Proofs.Inbox.Turn

/-! What becomes of a connection. Its stream alone decides: the frames that are handed over are the
whole frames of the stream, up to the first one that is answered with an error, and the connection
ends with that error, or as what is left of the stream says. -/

set_option autoImplicit false

namespace BurstLoad

open BurstLoad.Frame (Reading Reader Fits IsPartial IsOversized)

inductive Tail where
  | ongoing
  | ended
  | broken (fault : Fault)

/-- A stream as far as it has come, and what comes after its bytes. -/
structure Stream where
  bytes : Bytes
  tail : Tail

namespace Inbox.Event

def bytes : Event → Bytes
  | .feed chunk => chunk
  | .close | .reset _ => []

def tail : Event → Tail
  | .feed _ => .ongoing
  | .close => .ended
  | .reset fault => .broken fault

end Inbox.Event

namespace Stream

/-- One more event; nothing comes after an end. -/
def extend (s : Stream) (event : Inbox.Event) : Stream :=
  match s.tail with
  | .ongoing => ⟨s.bytes ++ event.bytes, event.tail⟩
  | _ => s

def ofEvents (events : List Inbox.Event) : Stream :=
  events.foldl extend ⟨[], .ongoing⟩

theorem ofEvents_concat (events : List Inbox.Event) (event : Inbox.Event) :
    ofEvents (events ++ [event]) = (ofEvents events).extend event := by
  simp [ofEvents]

end Stream

/-- The frames up to the first one that is answered with an error, with that error. -/
def handed (faults : Bytes → Option Fault) : List Bytes → List Bytes × Option Fault
  | [] => ([], none)
  | frame :: rest =>
    match faults frame with
    | some fault => ([frame], some fault)
    | none => (frame :: (handed faults rest).1, (handed faults rest).2)

/-- The frames that a connection hands over, and how it ends, if it does. -/
structure Fate where
  frames : List Bytes
  last : Reading

/-- What is said by the end of a stream all of whose frames were handed over without an error. -/
def Stream.ending (limit : Int) (s : Stream) : Reading :=
  let left := Frame.split limit s.bytes
  match left.oversized, s.tail with
  | some length, _ => .failed (.frame (.tooLarge length limit))
  | none, .ongoing => .pending
  | none, .ended => (Reader.holding limit left.rest).readAll.2
  | none, .broken fault => .failed fault

/-- What becomes of a connection with a stream. -/
def Stream.fate (limit : Int) (faults : Bytes → Option Fault) (s : Stream) : Fate :=
  match handed faults (Frame.split limit s.bytes).frames with
  | (frames, some fault) => ⟨frames, .failed fault⟩
  | (frames, none) => ⟨frames, s.ending limit⟩

namespace Stream

variable {limit : Int} {faults : Bytes → Option Fault}

/-! The fate of a stream, by what stands at its head. -/

theorem fate_of_partial {s : Bytes} (cut : IsPartial limit s) (tail : Tail) :
    fate limit faults ⟨s, tail⟩ = ⟨[], ending limit ⟨s, tail⟩⟩ := by
  rw [fate, Frame.split_of_partial cut]
  rfl

theorem fate_of_oversized {s : Bytes} {length : Nat} (bad : IsOversized limit length s)
    (tail : Tail) :
    fate limit faults ⟨s, tail⟩ = ⟨[], .failed (.frame (.tooLarge length limit))⟩ := by
  simp only [fate, ending, Frame.split_of_oversized bad]
  rfl

theorem fate_wrap_append {payload : Bytes} (fits : Fits limit payload) (rest : Bytes)
    (tail : Tail) :
    fate limit faults ⟨Frame.wrap payload ++ rest, tail⟩ = match faults payload with
      | some fault => ⟨[payload], .failed fault⟩
      | none => ⟨payload :: (fate limit faults ⟨rest, tail⟩).frames,
        (fate limit faults ⟨rest, tail⟩).last⟩ := by
  simp only [fate, ending, Frame.split_wrap_append fits, handed]
  cases faults payload with
  | some fault => rfl
  | none =>
    dsimp only
    cases same : handed faults (Frame.split limit rest).frames with
    | mk frames fault => cases fault <;> rfl

/-- A stream that is still waited for hands over more frames as it goes on. -/
theorem fate_append {s : Bytes} (waits : (fate limit faults ⟨s, .ongoing⟩).last = .pending)
    (more : Bytes) (tail : Tail) :
    fate limit faults ⟨s ++ more, tail⟩ =
      let onward := fate limit faults ⟨(Frame.split limit s).rest ++ more, tail⟩
      ⟨(fate limit faults ⟨s, .ongoing⟩).frames ++ onward.frames, onward.last⟩ := by
  induction s using Frame.split_induction limit with
  | cut s cut =>
    rw [fate_of_partial cut, Frame.split_of_partial cut]
    rfl
  | bad s length bad =>
    rw [fate_of_oversized bad] at waits
    cases waits
  | whole payload rest fits ih =>
    rw [fate_wrap_append fits] at waits ⊢
    rw [List.append_assoc, fate_wrap_append fits, Frame.split_wrap_append fits]
    cases answer : faults payload with
    | some fault =>
      rw [answer] at waits
      cases waits
    | none =>
      rw [answer] at waits
      simp only [ih waits]
      rfl

/-- Once a connection has come to its end, more of the stream changes nothing. -/
theorem fate_append_of_over {s : Bytes}
    (settled : (fate limit faults ⟨s, .ongoing⟩).last ≠ .pending) (more : Bytes) (tail : Tail) :
    fate limit faults ⟨s ++ more, tail⟩ = fate limit faults ⟨s, .ongoing⟩ := by
  induction s using Frame.split_induction limit with
  | cut s cut =>
    rw [fate_of_partial cut] at settled
    simp [ending, Frame.split_of_partial cut] at settled
  | bad s length bad => rw [fate_of_oversized (bad.append more), fate_of_oversized bad]
  | whole payload rest fits ih =>
    rw [fate_wrap_append fits] at settled ⊢
    rw [List.append_assoc, fate_wrap_append fits]
    cases answer : faults payload with
    | some fault => rfl
    | none =>
      rw [answer] at settled
      rw [ih settled]

theorem fate_extend_of_over {s : Stream} (settled : (s.fate limit faults).last ≠ .pending)
    (event : Inbox.Event) : (s.extend event).fate limit faults = s.fate limit faults := by
  obtain ⟨bytes, tail⟩ := s
  cases tail with
  | ongoing => exact fate_append_of_over settled event.bytes event.tail
  | ended | broken => rfl

end Stream

namespace Frame.Reader

/-- A reader at the head of some bytes. -/
def before (limit : Int) (s : Bytes) (closed : Bool) : Reader :=
  { limit, buffer := s, closed }

/-- A reader stands where a stream is left with some bytes, of which it may have taken the length of
a frame. -/
structure Holds (r : Reader) (s : Bytes) : Prop where
  whole : r.broken = none
  place : r.awaited = some .header ∧ r.buffer = s ∨
    ∃ length, r.awaited = some (.body length) ∧ s = Bytes.ofWord length ++ r.buffer ∧
      length < Bytes.wordCount ∧ length ≤ r.limit

/-- A reader waits for more of a stream that is left with some bytes. -/
structure Awaits (r : Reader) (limit : Int) (s : Bytes) : Prop where
  bounded : r.limit = limit
  holds : r.Holds s
  isOpen : r.closed = false
  unroused : r.roused = false
  cut : IsPartial limit s

variable {r : Reader} {limit : Int} {s : Bytes} {faults : Bytes → Option Fault}

theorem Awaits.waits (awaits : r.Awaits limit s) : r.waits = true := by
  obtain ⟨awaited, -⟩ | ⟨length, awaited, -⟩ := awaits.holds.place <;>
    simp [Reader.waits, awaited, awaits.unroused]

theorem readHeader_before {length : Nat} (body : Bytes) (short : length < Bytes.wordCount)
    (allowed : (length : Int) ≤ limit) (closed : Bool) :
    (before limit (Bytes.ofWord length ++ body) closed).readHeader =
      (before limit body closed).readBody length := by
  have fits : ¬ (length : Int) > limit := by omega
  unfold before readHeader
  rw [Bytes.takeWord?_ofWord_append, Nat.mod_eq_of_lt short]
  dsimp only
  rw [if_neg fits]
  rfl

/-- To go on with a frame is to begin with it once more. -/
theorem Holds.read_eq (holds : r.Holds s) : r.read = (before r.limit s r.closed).read := by
  obtain ⟨whole, place⟩ := holds
  obtain ⟨limit, buffer, closed, broken, awaited, roused⟩ := r
  obtain rfl : broken = none := whole
  obtain ⟨waiting, rfl⟩ | ⟨length, waiting, rfl, short, allowed⟩ := place
  · obtain rfl : awaited = some .header := waiting
    unfold read resume before readHeader
    dsimp only
    cases Bytes.takeWord? buffer <;> rfl
  · obtain rfl : awaited = some (.body length) := waiting
    exact (readHeader_before buffer short allowed closed).symm

theorem Holds.serve_eq (holds : r.Holds s) (faults : Bytes → Option Fault) :
    r.serve faults = (before r.limit s r.closed).serve faults := by
  rw [serve, serve, holds.read_eq]

theorem limit_feed (r : Reader) (chunk : Bytes) : (r.feed chunk).limit = r.limit := by
  unfold Reader.feed
  split <;> rfl

theorem closed_feed (r : Reader) (chunk : Bytes) : (r.feed chunk).closed = r.closed := by
  unfold Reader.feed
  split <;> rfl

theorem feed_before (limit : Int) (s : Bytes) (closed : Bool) (chunk : Bytes) :
    (before limit s closed).feed chunk = before limit (s ++ chunk) closed := by
  unfold Reader.feed
  split
  · next empty => rw [List.isEmpty_iff.mp empty, List.append_nil]
  · rfl

theorem Holds.feed (holds : r.Holds s) (chunk : Bytes) : (r.feed chunk).Holds (s ++ chunk) := by
  by_cases empty : chunk = []
  · rw [empty, List.append_nil]
    exact holds
  · obtain ⟨whole, place⟩ := holds
    rw [Reader.feed, if_neg (by simpa using empty)]
    refine ⟨whole, place.imp ?_ ?_⟩
    · rintro ⟨awaited, rfl⟩
      exact ⟨awaited, rfl⟩
    · rintro ⟨length, awaited, rfl, short, allowed⟩
      exact ⟨length, awaited, List.append_assoc _ _ _, short, allowed⟩

theorem read_before_wrap_append {payload : Bytes} (fits : Fits limit payload) (rest : Bytes)
    (closed : Bool) :
    (before limit (wrap payload ++ rest) closed).read = (before limit rest closed, .frame payload) := by
  have enough : ¬ payload.length + rest.length < payload.length := by omega
  change (before limit (wrap payload ++ rest) closed).readHeader = _
  rw [wrap, List.append_assoc, readHeader_before _ fits.2 fits.1]
  simp [before, readBody, enough]

/-- A length that is not allowed is taken off, and what comes after it stays. -/
theorem read_before_of_beyond {length : Nat} (short : length < Bytes.wordCount)
    (beyond : limit < length) (more : Bytes) (closed : Bool) :
    (before limit (Bytes.ofWord length ++ more) closed).read =
      (before limit more closed, .failed (.frame (.tooLarge length limit))) := by
  have exceeds : (length : Int) > limit := by omega
  change (before limit (Bytes.ofWord length ++ more) closed).readHeader = _
  unfold before readHeader
  rw [Bytes.takeWord?_ofWord_append, Nat.mod_eq_of_lt short]
  dsimp only
  rw [if_pos exceeds]

theorem read_before_of_oversized {length : Nat} (bad : IsOversized limit length s) (closed : Bool) :
    ∃ next, (before limit s closed).read = (next, .failed (.frame (.tooLarge length limit))) := by
  obtain ⟨⟨more, rfl⟩, short, beyond⟩ := bad
  exact ⟨_, read_before_of_beyond short beyond more closed⟩

/-- A reader that runs out of bytes waits for more. -/
theorem read_before_of_partial (cut : IsPartial limit s) :
    ∃ next : Reader, (before limit s false).read = (next, .pending) ∧ next.Awaits limit s := by
  change ∃ next : Reader, (before limit s false).readHeader = _ ∧ _
  obtain short | ⟨length, body, rfl, short, allowed, inside⟩ := cut
  · refine ⟨{ before limit s false with awaited := some .header }, ?_, rfl, ⟨rfl, .inl ⟨rfl, rfl⟩⟩, rfl,
      rfl, .inl short⟩
    unfold before readHeader
    rw [Bytes.takeWord?_eq_none short]
    rfl
  · refine ⟨{ before limit body false with awaited := some (.body length) }, ?_, rfl,
      ⟨rfl, .inr ⟨length, rfl, rfl, short, allowed⟩⟩, rfl, rfl,
      .inr ⟨length, body, rfl, short, allowed, inside⟩⟩
    rw [readHeader_before body short allowed]
    unfold before readBody
    rw [if_pos inside]
    rfl

/-- At the end of a stream a reading is what it is for the stream as a whole. -/
theorem serve_before_of_end (cut : IsPartial limit s) (faults : Bytes → Option Fault) :
    ∃ next : Reader, (before limit s true).serve faults = ⟨[], next, (holding limit s).readAll.2⟩ := by
  have whole := readAll_holding limit s
  rw [split_of_partial cut] at whole
  have same : holding limit s = before limit s true := holding_eq limit s
  cases step : (before limit s true).read with
  | mk next reading =>
    cases reading with
    | frame body =>
      rw [same, readAll_of_frame step] at whole
      cases congrArg Prod.fst whole
    | pending | finished | failed =>
      refine ⟨next, ?_⟩
      rw [serve_of_end step nofun, same, readAll_of_end next step nofun]

/-- A stream that has ended is not waited for. -/
theorem readAll_ne_pending (cut : IsPartial limit s) : (holding limit s).readAll.2 ≠ .pending := by
  obtain short | ⟨length, body, rfl, short, allowed, inside⟩ := cut
  · by_cases empty : s = []
    · rw [empty, readAll_nil]
      nofun
    · rw [readAll_of_headerCut empty short]
      nofun
  · rw [readAll_of_bodyCut short allowed inside]
    nofun

/-- What is handed over from the head of some bytes, and how that ends, is their fate as a stream. -/
theorem serve_before (faults : Bytes → Option Fault) (limit : Int) (s : Bytes) (closed : Bool) :
    let turn := (before limit s closed).serve faults
    let fate := Stream.fate limit faults ⟨s, if closed then .ended else .ongoing⟩
    turn.frames = fate.frames ∧ turn.last = fate.last ∧
      (fate.last = .pending → turn.reader.Awaits limit (split limit s).rest) := by
  dsimp only
  induction s using split_induction limit with
  | cut s cut =>
    rw [Stream.fate_of_partial cut]
    simp only [Stream.ending, split_of_partial cut]
    cases closed with
    | false =>
      obtain ⟨next, step, awaits⟩ := read_before_of_partial cut
      rw [serve_of_end step nofun]
      exact ⟨rfl, rfl, fun _ => awaits⟩
    | true =>
      obtain ⟨next, turn⟩ := serve_before_of_end cut faults
      rw [turn]
      exact ⟨rfl, rfl, fun waits => absurd waits (readAll_ne_pending cut)⟩
  | bad s length bad =>
    obtain ⟨next, step⟩ := read_before_of_oversized bad closed
    rw [Stream.fate_of_oversized bad, serve_of_end step nofun]
    exact ⟨rfl, rfl, nofun⟩
  | whole payload rest fits ih =>
    rw [Stream.fate_wrap_append fits, split_wrap_append fits,
      serve_of_frame (read_before_wrap_append fits rest closed)]
    cases faults payload with
    | some fault => exact ⟨rfl, rfl, nofun⟩
    | none =>
      obtain ⟨frames, last, awaits⟩ := ih
      exact ⟨congrArg (payload :: ·) frames, last, awaits⟩

/-- What rouses a reader leads to what becomes of all that it has not handed over yet. -/
theorem Awaits.serve_change (awaits : r.Awaits limit s) {event : Inbox.Event}
    (rouses : event.rouses = true) (faults : Bytes → Option Fault) :
    let turn := (event.change r).serve faults
    let fate := Stream.fate limit faults ⟨s ++ event.bytes, event.tail⟩
    turn.frames = fate.frames ∧ turn.last = fate.last ∧
      (fate.last = .pending → turn.reader.Awaits limit (split limit (s ++ event.bytes)).rest) := by
  obtain ⟨rfl, holds, isOpen, unroused, cut⟩ := awaits
  cases event with
  | feed chunk =>
    have some : chunk.isEmpty = false := by simpa [Inbox.Event.rouses] using rouses
    have fed : r.feed chunk = { r with buffer := r.buffer ++ chunk, roused := r.awaited.isSome } := by
      rw [feed, some]
      rfl
    have same := (holds.feed chunk).serve_eq faults
    rw [fed] at same
    have turn := serve_before faults r.limit (s ++ chunk) false
    dsimp only [Inbox.Event.change, Inbox.Event.bytes, Inbox.Event.tail]
    rw [fed, same, isOpen]
    exact turn
  | close =>
    have closed : r.close.Holds s := ⟨holds.whole, holds.place⟩
    dsimp only [Inbox.Event.change, Inbox.Event.bytes, Inbox.Event.tail]
    rw [closed.serve_eq, List.append_nil]
    exact serve_before faults r.limit s true
  | reset fault =>
    have step : (r.fail fault).read =
        ({ r with broken := some fault, awaited := none, roused := false }, .failed fault) := by
      simp [fail, unroused, read, resume]
    dsimp only [Inbox.Event.change, Inbox.Event.bytes, Inbox.Event.tail]
    rw [serve_of_end step nofun, List.append_nil, Stream.fate_of_partial cut, Stream.ending,
      split_of_partial cut]
    exact ⟨rfl, rfl, nofun⟩

/-- Handing over does not end with a frame. -/
theorem serve_last_ne_frame (r : Reader) (body : Bytes) : (r.serve faults).last ≠ .frame body := by
  induction r using Reader.serve.induct faults with
  | case1 r next frame step fault answer =>
    rw [serve_of_frame step, answer]
    simp
  | case2 r next frame step answer ih =>
    rw [serve_of_frame step, answer]
    exact ih
  | case3 r next reading last step =>
    rw [serve_of_end step last]
    exact last body

end Frame.Reader

/-- Only a stream that goes on is waited for. -/
theorem Stream.tail_eq_of_pending {limit : Int} {faults : Bytes → Option Fault} {s : Stream}
    (waits : (s.fate limit faults).last = .pending) : s.tail = .ongoing := by
  obtain ⟨bytes, tail⟩ := s
  have unended : ending limit ⟨bytes, tail⟩ = .pending := by
    unfold fate at waits
    split at waits
    · cases waits
    · exact waits
  unfold ending at unended
  obtain ⟨allowed, cut⟩ | ⟨length, oversized, -⟩ := Frame.split_rest limit bytes
  · simp only [allowed] at unended
    cases tail with
    | ongoing => rfl
    | ended => exact absurd unended (Frame.Reader.readAll_ne_pending cut)
    | broken => cases unended
  · simp [oversized] at unended

theorem Stream.extend_of_pending {limit : Int} {faults : Bytes → Option Fault} {s : Stream}
    (waits : (s.fate limit faults).last = .pending) (event : Inbox.Event) :
    s.extend event = ⟨s.bytes ++ event.bytes, event.tail⟩ := by
  rw [extend, tail_eq_of_pending waits]

/-- What one more event adds to the fate of a connection that is waited for. -/
theorem Stream.fate_extend {limit : Int} {faults : Bytes → Option Fault} {s : Stream}
    (waits : (s.fate limit faults).last = .pending) (event : Inbox.Event) :
    (s.extend event).fate limit faults =
      let onward := fate limit faults ⟨(Frame.split limit s.bytes).rest ++ event.bytes, event.tail⟩
      ⟨(s.fate limit faults).frames ++ onward.frames, onward.last⟩ := by
  rw [extend_of_pending waits]
  have ongoing := tail_eq_of_pending waits
  obtain ⟨bytes, tail⟩ := s
  obtain rfl : tail = .ongoing := ongoing
  exact fate_append waits event.bytes event.tail

end BurstLoad
