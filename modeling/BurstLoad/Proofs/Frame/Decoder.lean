import BurstLoad.Frame.Decoder
import BurstLoad.Proofs.Frame.Codec
import Mathlib.Data.List.Infix

/-! Feeding one decoder chunk after chunk. As long as no feed fails, the frames that were returned
and the bytes that are kept are those of the stream, wherever it was cut. A feed that reaches a
length beyond the limit returns nothing, so the whole frames that the same chunk completed are lost:
which frames are handed over before the failure depends on the cuts. -/

set_option autoImplicit false

namespace BurstLoad.Frame

/-- What a row of feeds comes to; the first feed that fails is the last one. -/
structure Intake where
  decoder : Decoder
  -- the frames that the feeds returned
  frames : List Bytes
  failure : Option Error

/-- The feeds account for all bytes that were fed: what they returned, written again, and what is
kept are those bytes, and what is kept is less than one frame. -/
structure Intake.Accounts (limit : Int) (fed : Bytes) (got : Intake) : Prop where
  accepted : got.failure = none
  lossless : ∃ encoded, got.frames.mapM (encode maxLength) = .ok encoded ∧
    encoded.flatten ++ got.decoder.buffer = fed
  cut : IsPartial limit got.decoder.buffer
  pending_le : (got.decoder.pending : Int) ≤ 3 + max limit 0

namespace Decoder

/-- A decoder that was fed nothing. -/
def fresh (limit : Int) : Decoder := { limit }

/-- Feeds chunks one after the other, up to the first feed that fails. -/
def feedAll (d : Decoder) : List Bytes → Intake
  | [] => ⟨d, [], none⟩
  | chunk :: rest =>
    match d.feed chunk with
    | (d, .error e) => ⟨d, [], some e⟩
    | (d, .ok frames) =>
      let more := d.feedAll rest
      { more with frames := frames ++ more.frames }

/-- The whole frames of what is kept and of more bytes, and what is left of them. -/
def parts (d : Decoder) (s : Bytes) : Split :=
  split d.limit (d.buffer ++ s)

theorem parts_append (d : Decoder) (s more : Bytes) :
    d.parts (s ++ more) =
      let next := { d with buffer := (d.parts s).rest }.parts more
      ⟨(d.parts s).frames ++ next.frames, next.rest, next.oversized⟩ := by
  rw [parts, ← List.append_assoc, split_append]
  rfl

theorem parts_rest_of_allowed {d : Decoder} {s : Bytes} (allowed : (d.parts s).oversized = none) :
    IsPartial d.limit (d.parts s).rest := by
  obtain ⟨-, cut⟩ | ⟨length, bad, -⟩ := split_rest d.limit (d.buffer ++ s)
  · exact cut
  · rw [parts, bad] at allowed
    cases allowed

/-- An oversized length stays where it is. -/
theorem parts_append_of_oversized {d : Decoder} {s : Bytes} {length : Nat}
    (bad : (d.parts s).oversized = some length) (more : Bytes) :
    d.parts (s ++ more) = ⟨(d.parts s).frames, (d.parts s).rest ++ more, some length⟩ := by
  obtain ⟨allowed, -⟩ | ⟨other, same, stuck⟩ := split_rest d.limit (d.buffer ++ s)
  · rw [parts, allowed] at bad
    cases bad
  · rw [parts, same] at bad
    cases bad
    rw [parts_append]
    simp only [parts, split_of_oversized (stuck.append more), List.append_nil]

theorem parts_allowed_of_append {d : Decoder} {s more : Bytes}
    (allowed : (d.parts (s ++ more)).oversized = none) : (d.parts s).oversized = none := by
  cases first : (d.parts s).oversized with
  | none => rfl
  | some length =>
    rw [parts_append_of_oversized first] at allowed
    cases allowed

theorem feed_of_allowed {d : Decoder} {chunk : Bytes}
    (allowed : (d.parts chunk).oversized = none) :
    d.feed chunk = ({ d with buffer := (d.parts chunk).rest }, .ok (d.parts chunk).frames) := by
  unfold parts at allowed
  simp only [feed, parts, allowed]

theorem feed_of_oversized {d : Decoder} {chunk : Bytes} {length : Nat}
    (bad : (d.parts chunk).oversized = some length) :
    d.feed chunk =
      ({ d with buffer := (d.parts chunk).rest }, .error (.tooLarge length d.limit)) := by
  unfold parts at bad
  simp only [feed, parts, bad]

/-- A stream without an oversized length is taken apart as a whole, wherever it is cut. -/
theorem feedAll_of_allowed {d : Decoder} (awaits : IsPartial d.limit d.buffer)
    {chunks : List Bytes} (allowed : (d.parts chunks.flatten).oversized = none) :
    d.feedAll chunks =
      ⟨{ d with buffer := (d.parts chunks.flatten).rest }, (d.parts chunks.flatten).frames,
        none⟩ := by
  induction chunks generalizing d with
  | nil => simp [feedAll, parts, split_of_partial awaits]
  | cons chunk rest ih =>
    -- What the first chunk leaves is again less than a frame, so the rest is fed to such a decoder.
    rw [List.flatten_cons] at allowed ⊢
    have first := parts_allowed_of_append allowed
    rw [parts_append] at allowed ⊢
    rw [feedAll, feed_of_allowed first]
    simp only [ih (d := { d with buffer := (d.parts chunk).rest })
      (parts_rest_of_allowed first) allowed]

/-- A stream with an oversized length fails in the chunk that completes that length. The frames
that were returned are those of the chunks before. -/
theorem feedAll_of_oversized {d : Decoder} (awaits : IsPartial d.limit d.buffer)
    {chunks : List Bytes} {length : Nat}
    (bad : (d.parts chunks.flatten).oversized = some length) :
    ∃ before chunk after, chunks = before ++ chunk :: after ∧
      (d.parts before.flatten).oversized = none ∧
      (d.parts (before.flatten ++ chunk)).oversized = some length ∧
      d.feedAll chunks =
        ⟨{ d with buffer := (d.parts (before.flatten ++ chunk)).rest },
          (d.parts before.flatten).frames, some (.tooLarge length d.limit)⟩ := by
  induction chunks generalizing d with
  | nil =>
    rw [parts, List.flatten_nil, List.append_nil, split_of_partial awaits] at bad
    cases bad
  | cons chunk rest ih =>
    cases first : (d.parts chunk).oversized with
    | some other =>
      -- The first chunk fails already, with what was kept before it as the rest.
      have same : other = length := by
        rw [List.flatten_cons, parts_append_of_oversized first] at bad
        exact Option.some.inj bad
      subst same
      have kept : d.parts ([] : Bytes) = ⟨[], d.buffer, none⟩ := by
        rw [parts, List.append_nil, split_of_partial awaits]
      refine ⟨[], chunk, rest, rfl, ?_, first, ?_⟩
      · rw [List.flatten_nil, kept]
      · rw [feedAll, feed_of_oversized first, List.flatten_nil, kept]
        rfl
    | none =>
      -- A later chunk fails; the first one joins those before it.
      rw [List.flatten_cons, parts_append] at bad
      obtain ⟨before, last, after, rfl, allowed, reached, fed⟩ :=
        ih (d := { d with buffer := (d.parts chunk).rest }) (parts_rest_of_allowed first) bad
      refine ⟨chunk :: before, last, after, rfl, ?_, ?_, ?_⟩
      · rw [List.flatten_cons, parts_append]
        exact allowed
      · rw [List.flatten_cons, List.append_assoc, parts_append]
        exact reached
      · rw [feedAll, feed_of_allowed first]
        simp only [fed]
        rw [List.flatten_cons, List.append_assoc, parts_append d chunk (before.flatten ++ last),
          parts_append d chunk before.flatten]

/-! From here on the decoder is fresh, so that what it was fed is the whole stream. -/

theorem feedAll_fresh_of_allowed {limit : Int} {chunks : List Bytes}
    (allowed : (split limit chunks.flatten).oversized = none) :
    (fresh limit).feedAll chunks =
      ⟨{ limit, buffer := (split limit chunks.flatten).rest }, (split limit chunks.flatten).frames,
        none⟩ :=
  feedAll_of_allowed (d := fresh limit) (.nil limit) allowed

theorem allowed_of_accepted {limit : Int} {chunks : List Bytes}
    (accepted : ((fresh limit).feedAll chunks).failure = none) :
    (split limit chunks.flatten).oversized = none := by
  cases whole : (split limit chunks.flatten).oversized with
  | none => rfl
  | some length =>
    obtain ⟨before, chunk, after, -, -, -, fed⟩ :=
      feedAll_of_oversized (d := fresh limit) (.nil limit) whole
    rw [fed] at accepted
    cases accepted

theorem accounts_of_allowed {limit : Int} {chunks : List Bytes}
    (allowed : (split limit chunks.flatten).oversized = none) :
    ((fresh limit).feedAll chunks).Accounts limit chunks.flatten := by
  have cut : IsPartial limit (split limit chunks.flatten).rest :=
    parts_rest_of_allowed (d := fresh limit) allowed
  rw [feedAll_fresh_of_allowed allowed]
  refine ⟨rfl, ⟨_, mapM_encode_maxLength fun p member => (split_fits _ _ p member).2, ?_⟩, cut,
    cut.length_le⟩
  rw [← List.flatMap_def]
  exact split_lossless limit chunks.flatten

theorem allowed_take {limit : Int} {chunks : List Bytes}
    (allowed : (split limit chunks.flatten).oversized = none) (k : Nat) :
    (split limit (chunks.take k).flatten).oversized = none := by
  rw [← List.take_append_drop k chunks, List.flatten_append] at allowed
  exact parts_allowed_of_append (d := fresh limit) allowed

/-- Decoding loses and invents nothing: while no feed fails, after every feed the frames returned so
far and the bytes kept are the bytes fed so far, and another way to cut the same bytes comes to the
same. Whole frames that are allowed come out as they went in, with nothing left, for every cut. -/
theorem feedAll_lossless (limit : Int) (chunks : List Bytes) :
    (((fresh limit).feedAll chunks).failure = none →
      (∀ k, ((fresh limit).feedAll (chunks.take k)).Accounts limit (chunks.take k).flatten) ∧
      ∀ others : List Bytes, others.flatten = chunks.flatten →
        (fresh limit).feedAll others = (fresh limit).feedAll chunks) ∧
    ∀ payloads : List Bytes, limit ≤ maxLength → (∀ p ∈ payloads, (p.length : Int) ≤ limit) →
      ∃ encoded, payloads.mapM (encode maxLength) = .ok encoded ∧
        (chunks.flatten = encoded.flatten →
          ((fresh limit).feedAll chunks).failure = none ∧
          ((fresh limit).feedAll chunks).frames = payloads ∧
          ((fresh limit).feedAll chunks).decoder.pending = 0) := by
  constructor
  · intro accepted
    have allowed := allowed_of_accepted accepted
    refine ⟨fun k => accounts_of_allowed (allowed_take allowed k), fun others same => ?_⟩
    rw [feedAll_fresh_of_allowed allowed, feedAll_fresh_of_allowed (same ▸ allowed), same]
  · intro payloads small short
    have fits : ∀ p ∈ payloads, Fits limit p := by
      intro p member
      have := short p member
      unfold maxLength Bytes.maxWord at small
      exact ⟨this, by unfold Bytes.wordCount; omega⟩
    refine ⟨_, mapM_encode_maxLength fun p member => (fits p member).2, fun stream => ?_⟩
    have whole : split limit chunks.flatten = ⟨payloads, [], none⟩ := by
      rw [stream, ← List.flatMap_def, ← List.append_nil (payloads.flatMap wrap),
        split_flatMap_wrap_append fits, split_of_partial (.nil limit), List.append_nil]
    rw [feedAll_fresh_of_allowed (by rw [whole]), whole]
    exact ⟨rfl, rfl, rfl⟩

/-- The length of the first of two frames is cut in the middle, and the second one is empty. -/
theorem feedAll_lossless_two_frames :
    ((fresh 2).feedAll [[0, 0], [0, 1, 7, 0, 0], [], [0, 0]]).Accounts 2
        [0, 0, 0, 1, 7, 0, 0, 0, 0] ∧
      ((fresh 2).feedAll [[0, 0], [0, 1, 7, 0, 0], [], [0, 0]]).frames = [[7], []] := by
  have sent := (feedAll_lossless 2 [[0, 0], [0, 1, 7, 0, 0], [], [0, 0]]).2 [[7], []]
    (by decide) (by decide)
  obtain ⟨encoded, written, read⟩ := sent
  obtain rfl : [[0, 0, 0, 1, 7], [0, 0, 0, 0]] = encoded := Except.ok.inj written
  obtain ⟨accepted, frames, -⟩ := read rfl
  exact ⟨((feedAll_lossless 2 _).1 accepted).1 4, frames⟩

/-! A stream of whole frames with an oversized length after them, and how much of it has arrived. -/

section Oversized

variable {limit : Int} {length : Nat} {payloads : List Bytes} {tail : Bytes}

theorem isOversized_take (bad : IsOversized limit length tail) {n : Nat} (enough : headerSize ≤ n) :
    IsOversized limit length (tail.take n) := by
  obtain ⟨⟨more, rfl⟩, short, beyond⟩ := bad
  refine ⟨⟨more.take (n - headerSize), ?_⟩, short, beyond⟩
  rw [List.take_append, Bytes.length_ofWord, List.take_of_length_le]
  · rfl
  · rw [Bytes.length_ofWord]
    exact enough

theorem isPartial_take (limit : Int) (tail : Bytes) {n : Nat} (short : n < headerSize) :
    IsPartial limit (tail.take n) :=
  .inl (Nat.lt_of_le_of_lt (List.length_take_le n tail) short)

/-- Once all whole frames have arrived they are read, and the bytes of the length after them count
from its fourth one on. -/
theorem split_take_of_le (fits : ∀ p ∈ payloads, Fits limit p)
    (bad : IsOversized limit length tail) {n : Nat} (all : (payloads.flatMap wrap).length ≤ n) :
    (split limit ((payloads.flatMap wrap ++ tail).take n)).frames = payloads ∧
      ((split limit ((payloads.flatMap wrap ++ tail).take n)).oversized = none ↔
        n < (payloads.flatMap wrap).length + headerSize) := by
  rw [List.take_append, List.take_of_length_le all, split_flatMap_wrap_append fits]
  by_cases short : n - (payloads.flatMap wrap).length < headerSize
  · rw [split_of_partial (isPartial_take limit tail short)]
    exact ⟨List.append_nil _, by simp only [true_iff]; omega⟩
  · rw [split_of_oversized (isOversized_take bad (by omega))]
    exact ⟨List.append_nil _, by simp only [reduceCtorEq, false_iff]; omega⟩

/-- Before that, at least one frame is missing and nothing is oversized. -/
theorem split_take_of_lt (fits : ∀ p ∈ payloads, Fits limit p)
    (bad : IsOversized limit length tail) {n : Nat} (less : n < (payloads.flatMap wrap).length) :
    (split limit ((payloads.flatMap wrap ++ tail).take n)).frames ≠ payloads ∧
      (split limit ((payloads.flatMap wrap ++ tail).take n)).oversized = none := by
  have missing : (split limit ((payloads.flatMap wrap ++ tail).take n)).frames ≠ payloads := by
    intro same
    have sizes := congrArg List.length
      (split_lossless limit ((payloads.flatMap wrap ++ tail).take n))
    rw [same, List.length_append, List.length_take] at sizes
    omega
  refine ⟨missing, ?_⟩
  cases found : (split limit ((payloads.flatMap wrap ++ tail).take n)).oversized with
  | none => rfl
  | some other =>
    -- An oversized length this early would stay, and with it the frames, which are not all.
    refine absurd ?_ missing
    have whole := parts_append_of_oversized (d := fresh limit) found
      ((payloads.flatMap wrap ++ tail).drop n)
    rw [List.take_append_drop] at whole
    change split limit (payloads.flatMap wrap ++ tail) = _ at whole
    rw [split_flatMap_wrap_append fits, split_of_oversized bad, List.append_nil] at whole
    exact (congrArg Split.frames whole).symm

theorem frames_take_iff (fits : ∀ p ∈ payloads, Fits limit p)
    (bad : IsOversized limit length tail) (n : Nat) :
    (split limit ((payloads.flatMap wrap ++ tail).take n)).frames = payloads ↔
      (payloads.flatMap wrap).length ≤ n := by
  by_cases all : (payloads.flatMap wrap).length ≤ n
  · exact iff_of_true (split_take_of_le fits bad all).1 all
  · exact iff_of_false (split_take_of_lt fits bad (by omega)).1 all

theorem allowed_take_iff (fits : ∀ p ∈ payloads, Fits limit p)
    (bad : IsOversized limit length tail) (n : Nat) :
    (split limit ((payloads.flatMap wrap ++ tail).take n)).oversized = none ↔
      n < (payloads.flatMap wrap).length + headerSize := by
  by_cases all : (payloads.flatMap wrap).length ≤ n
  · exact (split_take_of_le fits bad all).2
  · exact iff_of_true (split_take_of_lt fits bad (by omega)).2 (by omega)

end Oversized

/-- The first chunks of a stream are its first bytes. -/
theorem flatten_eq_take (first rest : List Bytes) {s : Bytes}
    (stream : (first ++ rest).flatten = s) : first.flatten = s.take first.flatten.length := by
  rw [← stream, List.flatten_append, List.take_left]

/-- Of a row of chunks of which one goes beyond a place, the chunks before it reach another place if
and only if some cut lies between the two. -/
theorem le_iff_exists_cut {before after : List Bytes} {chunk : Bytes} {low high : Nat}
    (early : before.flatten.length < high) (late : ¬ (before.flatten ++ chunk).length < high) :
    low ≤ before.flatten.length ↔
      ∃ k, low ≤ ((before ++ chunk :: after).take k).flatten.length ∧
        ((before ++ chunk :: after).take k).flatten.length < high := by
  constructor
  · intro reached
    exact ⟨before.length, by rw [List.take_left]; exact reached, by rw [List.take_left]; exact early⟩
  · rintro ⟨k, reached, notLate⟩
    obtain inside | beyond := Nat.lt_or_ge before.length k
    -- A cut after the chunk comes too late, and one before it is no later than the chunk's own.
    · refine absurd (Nat.lt_of_le_of_lt ?_ notLate) late
      have first : before ++ [chunk] <+: (before ++ chunk :: after).take k := by
        rw [List.prefix_take_iff]
        exact ⟨⟨after, by simp⟩, by simpa using Nat.succ_le_of_lt inside⟩
      simpa using first.flatten.length_le
    · have first : (before ++ chunk :: after).take k <+: before := by
        rw [List.take_append_of_le_length beyond]
        exact List.take_prefix k before
      exact Nat.le_trans reached first.flatten.length_le

/-- The feed that reaches an oversized length loses the frames that its own chunk completed: all
frames are handed over if and only if a cut between two chunks falls after the last of them and
before the fourth byte of that length. -/
theorem feedAll_fresh_of_oversized {limit : Int} {length : Nat} {payloads chunks : List Bytes}
    {tail : Bytes} (fits : ∀ p ∈ payloads, Fits limit p) (bad : IsOversized limit length tail)
    (stream : chunks.flatten = payloads.flatMap wrap ++ tail) :
    ((fresh limit).feedAll chunks).failure = some (.tooLarge length limit) ∧
      ((fresh limit).feedAll chunks).frames <+: payloads ∧
      (((fresh limit).feedAll chunks).frames = payloads ↔
        ∃ k, (payloads.flatMap wrap).length ≤ (chunks.take k).flatten.length ∧
          (chunks.take k).flatten.length < (payloads.flatMap wrap).length + headerSize) := by
  have whole := split_flatMap_wrap_append fits tail
  rw [← stream, split_of_oversized bad, List.append_nil] at whole
  obtain ⟨before, chunk, after, rfl, allowed, reached, fed⟩ :=
    feedAll_of_oversized (d := fresh limit) (.nil limit)
      (show (split limit chunks.flatten).oversized = some length by rw [whole])
  change (split limit before.flatten).oversized = none at allowed
  change (split limit (before.flatten ++ chunk)).oversized = some length at reached
  have early := flatten_eq_take before (chunk :: after) stream
  have late : before.flatten ++ chunk =
      (payloads.flatMap wrap ++ tail).take (before.flatten ++ chunk).length := by
    simpa using flatten_eq_take (before ++ [chunk]) after (by simpa using stream)
  rw [fed]
  refine ⟨rfl, ?_, ?_⟩
  · have grown := split_append limit before.flatten (chunk :: after).flatten
    rw [← List.flatten_append, whole] at grown
    exact ⟨_, (congrArg Split.frames grown).symm⟩
  · change (split limit before.flatten).frames = payloads ↔ _
    rw [early, frames_take_iff fits bad]
    rw [early, allowed_take_iff fits bad] at allowed
    have full : ¬ (before.flatten ++ chunk).length <
        (payloads.flatMap wrap).length + headerSize := by
      rw [← allowed_take_iff fits bad, ← late, reached]
      exact Option.some_ne_none length
    exact le_iff_exists_cut allowed full

/-- Which frames are handed over of a stream of whole frames and what follows them: all, if that is
the beginning of one more; before an oversized length some of the first, and all of them only where
the chunks are cut between the last frame and the end of that length. -/
theorem feedAll_frames_iff {limit : Int} {payloads chunks : List Bytes} {tail : Bytes}
    (fits : ∀ p ∈ payloads, Fits limit p)
    (stream : chunks.flatten = payloads.flatMap wrap ++ tail) :
    (IsPartial limit tail →
      ((fresh limit).feedAll chunks).failure = none ∧
        ((fresh limit).feedAll chunks).frames = payloads) ∧
    ∀ length, IsOversized limit length tail →
      ((fresh limit).feedAll chunks).failure = some (.tooLarge length limit) ∧
      ((fresh limit).feedAll chunks).frames <+: payloads ∧
      (((fresh limit).feedAll chunks).frames = payloads ↔
        ∃ k, (payloads.flatMap wrap).length ≤ (chunks.take k).flatten.length ∧
          (chunks.take k).flatten.length < (payloads.flatMap wrap).length + headerSize) := by
  refine ⟨fun cut => ?_, fun length bad => feedAll_fresh_of_oversized fits bad stream⟩
  have whole := split_flatMap_wrap_append fits tail
  rw [← stream, split_of_partial cut, List.append_nil] at whole
  rw [feedAll_fresh_of_allowed (by rw [whole]), whole]
  exact ⟨rfl, rfl⟩

/-- A whole frame and an oversized length that arrive together: the frame is not handed over. -/
theorem feedAll_frames_of_one_chunk :
    ((fresh 8).feedAll [[0, 0, 0, 1, 97, 255, 255, 255, 255]]).failure =
        some (.tooLarge 4294967295 8) ∧
      ((fresh 8).feedAll [[0, 0, 0, 1, 97, 255, 255, 255, 255]]).frames ≠ [[97]] := by
  have fits : ∀ p ∈ [[97]], Fits 8 p := by
    intro p member
    obtain rfl := List.mem_singleton.mp member
    exact ⟨by decide, by decide⟩
  have stream : ([[0, 0, 0, 1, 97, 255, 255, 255, 255]] : List Bytes).flatten =
      [[97]].flatMap wrap ++ [255, 255, 255, 255] := rfl
  have bad : IsOversized 8 4294967295 [255, 255, 255, 255] :=
    ⟨⟨[], rfl⟩, by decide, by decide⟩
  obtain ⟨failure, -, all⟩ := (feedAll_frames_iff fits stream).2 4294967295 bad
  refine ⟨failure, fun same => ?_⟩
  obtain ⟨k, low, high⟩ := all.mp same
  cases k with
  | zero => exact absurd low (by decide)
  | succ k => exact absurd high (by simp [headerSize, wrap, Bytes.ofWord])

/-- The frames that are handed over before a failure are not a function of the bytes alone. -/
theorem frames_depend_on_cuts :
    ¬ ∀ (limit : Int) (chunks others : List Bytes), chunks.flatten = others.flatten →
      ((fresh limit).feedAll chunks).frames = ((fresh limit).feedAll others).frames := by
  intro same
  have together : ((fresh 8).feedAll [[0, 0, 0, 1, 97, 255, 255, 255, 255]]).frames = [] := by cbv
  have apart :
      ((fresh 8).feedAll [[0, 0, 0, 1, 97], [255, 255, 255, 255]]).frames = [[97]] := by cbv
  have := same 8 [[0, 0, 0, 1, 97, 255, 255, 255, 255]] [[0, 0, 0, 1, 97], [255, 255, 255, 255]] rfl
  rw [together, apart] at this
  cases this

end Decoder

end BurstLoad.Frame
