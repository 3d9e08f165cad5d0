import BurstLoad.Proofs.Inbox.Fate

/-! A frame that arrives in pieces. Whether a decoder is fed the pieces or a read begins with some of them
and goes on as the others come, the payload comes out as it went in. -/

set_option autoImplicit false

namespace BurstLoad.Frame

namespace Reader

variable {r : Reader} {limit : Int} {s : Bytes}

/-- Reads a frame that arrives in pieces: the read begins when the first pieces are there, and after the
pieces that come in between it goes on. -/
def readOver (r : Reader) : List (List Bytes) → Reading
  | [] => .pending
  | pieces :: later =>
    match (pieces.foldl feed r).read with
    | (r, .pending) => r.readOver later
    | (_, reading) => reading

/-- A reader that begins at the head of some bytes or goes on there, in a stream that is open. -/
inductive At (limit : Int) (s : Bytes) : Reader → Prop where
  | begins : At limit s (before limit s false)
  | goesOn {r : Reader} (bounded : r.limit = limit) (isOpen : r.closed = false) (holds : r.Holds s) :
      At limit s r

theorem At.read_eq (place : r.At limit s) : r.read = (before limit s false).read := by
  cases place with
  | begins => rfl
  | goesOn bounded isOpen holds => rw [holds.read_eq, bounded, isOpen]

theorem At.feed (place : r.At limit s) (chunk : Bytes) : (r.feed chunk).At limit (s ++ chunk) := by
  cases place with
  | begins =>
    rw [feed_before]
    exact .begins
  | goesOn bounded isOpen holds =>
    exact .goesOn ((r.limit_feed chunk).trans bounded) ((r.closed_feed chunk).trans isOpen)
      (holds.feed chunk)

theorem At.feedAll (place : r.At limit s) (chunks : List Bytes) :
    (chunks.foldl Reader.feed r).At limit (s ++ chunks.flatten) := by
  induction chunks generalizing r s with
  | nil =>
    rw [List.flatten_nil, List.append_nil]
    exact place
  | cons chunk rest ih =>
    rw [List.flatten_cons, ← List.append_assoc]
    exact ih (place.feed chunk)

/-- A read of a stream with a whole frame at its head gives the payload of this frame, however the stream
arrives and whatever comes after the frame. -/
theorem At.readOver_eq {payload more : Bytes} (place : r.At limit s) (cut : IsPartial limit s)
    (fits : Fits limit payload) {arrivals : List (List Bytes)}
    (stream : s ++ arrivals.flatten.flatten = wrap payload ++ more) :
    r.readOver arrivals = .frame payload := by
  have head := scan_eq_frame_iff.mpr ⟨stream, fits⟩
  induction arrivals generalizing r s with
  | nil =>
    rw [List.flatten_nil, List.flatten_nil, List.append_nil, scan_eq_incomplete_iff.mpr cut] at head
    cases head
  | cons pieces later ih =>
    have fed := place.feedAll pieces
    rw [List.flatten_cons, List.flatten_append, ← List.append_assoc] at stream head
    rw [readOver, fed.read_eq]
    cases come : scan limit (s ++ pieces.flatten) with
    | incomplete =>
      have cut := scan_eq_incomplete_iff.mp come
      obtain ⟨next, step, awaits⟩ := read_before_of_partial cut
      rw [step]
      exact ih (.goesOn awaits.bounded awaits.isOpen awaits.holds) cut stream head
    | tooLarge length =>
      have bad := (scan_eq_tooLarge_iff.mp come).append later.flatten.flatten
      rw [scan_eq_tooLarge_iff.mpr bad] at head
      cases head
    | frame body rest =>
      obtain ⟨same, allowed⟩ := scan_eq_frame_iff.mp come
      rw [same, List.append_assoc, scan_eq_frame_iff.mpr ⟨rfl, allowed⟩] at head
      cases head
      rw [same, read_before_wrap_append fits]

end Reader

/-- A payload comes out of its frame as it went in, in whichever chunks the frame arrives, for a decoder
and for a read, and as soon as it is not longer than what may be received. -/
structure Arrives (payload : Bytes) : Prop where
  decoded : ∀ {frame : Bytes} {limit : Int} {chunks : List Bytes},
    encode maxLength payload = .ok frame → payload.length ≤ limit → chunks.flatten = frame →
      (Decoder.fresh limit).feedAll chunks = ⟨.fresh limit, [payload], none⟩
  read : ∀ {frame : Bytes} {limit : Int} {arrivals : List (List Bytes)},
    encode maxLength payload = .ok frame → payload.length ≤ limit → arrivals.flatten.flatten = frame →
      ({ limit } : Reader).readOver arrivals = .frame payload

theorem eq_of_encode_maxLength {payload frame : Bytes} (framed : encode maxLength payload = .ok frame) :
    frame = wrap payload ∧ payload.length < Bytes.wordCount := by
  unfold encode at framed
  split at framed
  · cases framed
  · next short =>
    cases framed
    exact ⟨rfl, lt_wordCount_iff_le_maxLength.mpr (Int.not_lt.mp short)⟩

theorem arrives (payload : Bytes) : Arrives payload where
  decoded {frame limit chunks} framed allowed cut := by
    obtain ⟨rfl, short⟩ := eq_of_encode_maxLength framed
    have whole : split limit chunks.flatten = ⟨[payload], [], none⟩ := by
      rw [cut, ← List.append_nil (wrap payload), split_wrap_append ⟨allowed, short⟩,
        split_of_partial (.nil limit)]
    rw [Decoder.feedAll_fresh_of_allowed (by rw [whole]), whole]
    rfl
  read {frame limit arrivals} framed allowed cut := by
    obtain ⟨rfl, short⟩ := eq_of_encode_maxLength framed
    have stream : [] ++ arrivals.flatten.flatten = wrap payload ++ [] := by
      rw [List.nil_append, List.append_nil, cut]
    exact Reader.At.begins.readOver_eq (.nil limit) ⟨allowed, short⟩ stream

end BurstLoad.Frame
