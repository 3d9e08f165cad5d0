import BurstLoad.Proofs.Frame.Decoder

/-! A decoder that is fed on after a feed failed. The length that is not allowed stands at the head of
what the decoder keeps, and no feed takes it away: each one fails for that length again and adds its
bytes behind the others. -/

set_option autoImplicit false

namespace BurstLoad.Frame.Decoder

/-- The decoder after a row of feeds, whether they failed or not. -/
def afterFeeds (d : Decoder) : List Bytes → Decoder
  | [] => d
  | chunk :: rest => (d.feed chunk).1.afterFeeds rest

/-- Whatever the decoder is fed next, it fails for the same reason and reads nothing. -/
structure IsStuck (e : Error) (d : Decoder) : Prop where
  fails : ∀ chunk, (d.feed chunk).2 = .error e
  keeps : ∀ chunk, (d.feed chunk).1.buffer = d.buffer ++ chunk
  grows : ∀ chunk, (d.feed chunk).1.pending = d.pending + chunk.length

variable {d : Decoder} {length : Nat}

theorem limit_feed (d : Decoder) (chunk : Bytes) : (d.feed chunk).1.limit = d.limit :=
  rfl

theorem afterFeeds_append (d : Decoder) (chunks more : List Bytes) :
    d.afterFeeds (chunks ++ more) = (d.afterFeeds chunks).afterFeeds more := by
  induction chunks generalizing d with
  | nil => rfl
  | cons chunk rest ih => exact ih (d.feed chunk).1

/-- What was fed is a row of whole frames, which were read, and what the decoder keeps. -/
theorem exists_payloads_afterFeeds (d : Decoder) (chunks : List Bytes) :
    (d.afterFeeds chunks).limit = d.limit ∧
      ∃ payloads : List Bytes, (∀ p ∈ payloads, Fits d.limit p) ∧
        d.buffer ++ chunks.flatten = payloads.flatMap wrap ++ (d.afterFeeds chunks).buffer := by
  induction chunks generalizing d with
  | nil => exact ⟨rfl, [], by simp, List.append_nil d.buffer⟩
  | cons chunk rest ih =>
    obtain ⟨same, later, fits, rests⟩ := ih (d.feed chunk).1
    rw [limit_feed] at same fits
    let now := (d.parts chunk).frames
    refine ⟨same, now ++ later, fun p member => ?_, ?_⟩
    · obtain read | after := List.mem_append.mp member
      · exact split_fits d.limit (d.buffer ++ chunk) p read
      · exact fits p after
    · calc
        d.buffer ++ (chunk :: rest).flatten = d.buffer ++ chunk ++ rest.flatten := by
          rw [List.flatten_cons, List.append_assoc]
        _ = now.flatMap wrap ++ ((d.feed chunk).1.buffer ++ rest.flatten) := by
          rw [← split_lossless d.limit (d.buffer ++ chunk), List.append_assoc]
          rfl
        _ = (now ++ later).flatMap wrap ++ (d.afterFeeds (chunk :: rest)).buffer := by
          rw [rests, List.flatMap_append, List.append_assoc]
          rfl

theorem feed_of_isOversized (bad : IsOversized d.limit length d.buffer) (chunk : Bytes) :
    d.feed chunk =
      ({ d with buffer := d.buffer ++ chunk }, .error (.tooLarge length d.limit)) := by
  have stays : d.parts chunk = ⟨[], d.buffer ++ chunk, some length⟩ :=
    split_of_oversized (bad.append chunk)
  rw [feed_of_oversized (by rw [stays]), stays]

theorem isStuck_of_isOversized (bad : IsOversized d.limit length d.buffer) :
    d.IsStuck (.tooLarge length d.limit) where
  fails chunk := by rw [feed_of_isOversized bad]
  keeps chunk := by rw [feed_of_isOversized bad]
  grows chunk := by
    rw [feed_of_isOversized bad]
    exact List.length_append

theorem afterFeeds_of_isOversized (bad : IsOversized d.limit length d.buffer)
    (later : List Bytes) :
    d.afterFeeds later = { d with buffer := d.buffer ++ later.flatten } := by
  induction later generalizing d with
  | nil => rw [List.flatten_nil, List.append_nil]; rfl
  | cons chunk rest ih =>
    rw [afterFeeds, feed_of_isOversized bad, ih (bad.append chunk), List.flatten_cons,
      List.append_assoc]

/-- A feed fails only for a length that is not allowed, and with that at the head of what it keeps. -/
theorem exists_isOversized_of_failed {chunk : Bytes} {e : Error}
    (failed : (d.feed chunk).2 = .error e) :
    ∃ length : Nat, e = .tooLarge length d.limit ∧
      IsOversized d.limit length (d.feed chunk).1.buffer := by
  obtain ⟨allowed, -⟩ | ⟨length, reached, bad⟩ := split_rest d.limit (d.buffer ++ chunk)
  · rw [feed_of_allowed allowed] at failed
    cases failed
  · rw [feed_of_oversized reached] at failed
    exact ⟨length, (Except.error.inj failed).symm, bad⟩

/-- A decoder that failed once is stuck, however it is fed on. What it was fed is whole frames and then
a length that is not allowed; from there on all bytes are kept as they come. -/
theorem isStuck_of_failed {before : List Bytes} {chunk : Bytes} {e : Error}
    (failed : ((d.afterFeeds before).feed chunk).2 = .error e) :
    ∃ (length : Nat) (payloads : List Bytes) (kept : Bytes),
      e = .tooLarge length d.limit ∧ IsOversized d.limit length kept ∧
      (∀ p ∈ payloads, Fits d.limit p) ∧
      d.buffer ++ (before ++ [chunk]).flatten = payloads.flatMap wrap ++ kept ∧
      ∀ later, (d.afterFeeds (before ++ chunk :: later)).buffer = kept ++ later.flatten ∧
        (d.afterFeeds (before ++ chunk :: later)).IsStuck e := by
  obtain ⟨limit, -⟩ := exists_payloads_afterFeeds d before
  obtain ⟨-, payloads, fits, fed⟩ := exists_payloads_afterFeeds d (before ++ [chunk])
  obtain ⟨length, rfl, bad⟩ := exists_isOversized_of_failed failed
  rw [limit] at bad ⊢
  rw [afterFeeds_append] at fed
  refine ⟨length, payloads, _, rfl, bad, fits, fed, fun later => ?_⟩
  have feeds : d.afterFeeds (before ++ chunk :: later) =
      ⟨d.limit, ((d.afterFeeds before).feed chunk).1.buffer ++ later.flatten⟩ := by
    rw [afterFeeds_append, ← limit]
    exact afterFeeds_of_isOversized (by rw [limit_feed, limit]; exact bad) later
  rw [feeds]
  exact ⟨rfl, isStuck_of_isOversized (d := ⟨d.limit, _⟩) (bad.append later.flatten)⟩

/-- A length that is not allowed arrives in two chunks, behind a frame; what could be read as two more
frames comes after it. -/
theorem isStuck_nine_bytes :
    (((fresh 8).afterFeeds [[0, 0, 0, 1, 7, 0, 0]]).feed [0, 9]).2 = .error (.tooLarge 9 8) ∧
      let d := (fresh 8).afterFeeds
        ([[0, 0, 0, 1, 7, 0, 0]] ++ [0, 9] :: [[], [0, 0, 0, 0], [0, 0, 0, 1, 5]])
      d.IsStuck (.tooLarge 9 8) ∧ d.pending = 13 := by
  have fed : ((fresh 8).afterFeeds [[0, 0, 0, 1, 7, 0, 0]]).feed [0, 9] =
      (⟨8, [0, 0, 0, 9]⟩, .error (.tooLarge 9 8)) := by cbv
  have failed := congrArg Prod.snd fed
  obtain ⟨_, _, _, -, -, -, -, fedOn⟩ := isStuck_of_failed failed
  exact ⟨failed, (fedOn _).2, by cbv⟩

end BurstLoad.Frame.Decoder
