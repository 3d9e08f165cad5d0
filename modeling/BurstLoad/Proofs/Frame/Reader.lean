import BurstLoad.Inbox.Visitor
import BurstLoad.Proofs.Frame.Decoder

/-! Reading a stream that is at hand as a whole, frame after frame to its end, and how that agrees
with a decoder that is fed the same bytes one at a time: the frames are the same, and each way in
which the reading ends says what the decoder still keeps or why a feed failed. -/

set_option autoImplicit false

namespace BurstLoad.Frame

namespace Reader

/-- A reader of a stream all of whose bytes have arrived, and its end. -/
def holding (limit : Int) (s : Bytes) : Reader :=
  (({ limit } : Reader).feed s).close

/-- Reads frames up to the first reading that is none, which comes with them. -/
def readAll (r : Reader) : List Bytes × Reading :=
  match _step : r.read with
  | (r, .frame body) =>
    let more := r.readAll
    (body :: more.1, more.2)
  | (_, reading) => ([], reading)
termination_by Visitor.backlog r
decreasing_by exact Visitor.backlog_lt_of_read _step

theorem readAll_of_frame {r next : Reader} {body : Bytes} (step : r.read = (next, .frame body)) :
    r.readAll = (body :: next.readAll.1, next.readAll.2) := by
  rw [readAll]
  split
  · next other =>
    rw [step] at other
    cases other
    rfl
  · next distinct other =>
    rw [step] at other
    cases other
    exact (distinct body rfl).elim

theorem readAll_of_end {r : Reader} (next : Reader) {reading : Reading}
    (step : r.read = (next, reading)) (last : ∀ body, reading ≠ .frame body) :
    r.readAll = ([], reading) := by
  rw [readAll]
  split
  · next body other =>
    rw [step] at other
    cases other
    exact (last _ rfl).elim
  · next other =>
    rw [step] at other
    cases other
    rfl

/-! One reading, by what stands at the head of the stream. -/

theorem holding_eq (limit : Int) (s : Bytes) :
    holding limit s = { limit, buffer := s, closed := true } := by
  cases s <;> rfl

theorem read_holding (limit : Int) (s : Bytes) :
    (holding limit s).read = (holding limit s).readHeader := by
  rw [holding_eq]
  rfl

theorem readHeader_of_word {limit : Int} {length : Nat} (body : Bytes)
    (short : length < Bytes.wordCount) (allowed : (length : Int) ≤ limit) :
    (holding limit (Bytes.ofWord length ++ body)).readHeader =
      (holding limit body).readBody length := by
  have fits : ¬ (length : Int) > limit := by omega
  simp only [holding_eq, readHeader, beginBody, Bytes.takeWord?_ofWord_append,
    Nat.mod_eq_of_lt short, if_neg fits]

theorem readAll_wrap_append {limit : Int} {payload : Bytes} (fits : Fits limit payload)
    (rest : Bytes) :
    (holding limit (wrap payload ++ rest)).readAll =
      (payload :: (holding limit rest).readAll.1, (holding limit rest).readAll.2) := by
  refine readAll_of_frame ?_
  have enough : ¬ payload.length + rest.length < payload.length := by omega
  rw [read_holding, wrap, List.append_assoc, readHeader_of_word _ fits.2 fits.1]
  simp [holding_eq, readBody, enough]

theorem readAll_of_oversized {limit : Int} {length : Nat} {s : Bytes}
    (bad : IsOversized limit length s) :
    (holding limit s).readAll = ([], .failed (.frame (.tooLarge length limit))) := by
  obtain ⟨⟨more, rfl⟩, short, beyond⟩ := bad
  have exceeds : (length : Int) > limit := by omega
  refine readAll_of_end { holding limit more with awaited := none } ?_ nofun
  rw [read_holding]
  simp only [holding_eq, readHeader, Bytes.takeWord?_ofWord_append, Nat.mod_eq_of_lt short,
    if_pos exceeds]

theorem readAll_nil (limit : Int) : (holding limit []).readAll = ([], .finished) :=
  readAll_of_end (holding limit []) rfl nofun

theorem readAll_of_headerCut {limit : Int} {s : Bytes} (some : s ≠ [])
    (short : s.length < headerSize) :
    (holding limit s).readAll = ([], .failed (.frame (.headerCut s.length))) := by
  refine readAll_of_end (holding limit []) ?_ nofun
  rw [read_holding]
  simp [holding_eq, readHeader, Bytes.takeWord?_eq_none short, some]

theorem readAll_of_bodyCut {limit : Int} {length : Nat} {body : Bytes}
    (short : length < Bytes.wordCount) (allowed : (length : Int) ≤ limit)
    (inside : body.length < length) :
    (holding limit (Bytes.ofWord length ++ body)).readAll =
      ([], .failed (.frame (.bodyCut body.length length))) := by
  refine readAll_of_end (holding limit []) ?_ nofun
  rw [read_holding, readHeader_of_word body short allowed]
  simp [holding_eq, readBody, inside]

/-- The frames read are those of the stream, and the ending is that of what is left. -/
theorem readAll_holding (limit : Int) (s : Bytes) :
    (holding limit s).readAll =
      ((split limit s).frames, (holding limit (split limit s).rest).readAll.2) := by
  induction s using split_induction limit with
  | cut s cut =>
    rw [split_of_partial cut]
    obtain short | ⟨length, body, rfl, short, allowed, inside⟩ := cut
    · by_cases empty : s = []
      · rw [empty, readAll_nil]
      · rw [readAll_of_headerCut empty short]
    · rw [readAll_of_bodyCut short allowed inside]
  | bad s length bad => rw [split_of_oversized bad, readAll_of_oversized bad]
  | whole payload rest fits ih => rw [split_wrap_append fits, readAll_wrap_append fits, ih]

end Reader

/-! Feeding a decoder one byte at a time. -/

theorem flatten_bytewise (s : Bytes) : (s.map fun b => [b]).flatten = s := by
  rw [← List.flatMap_def, List.flatMap_singleton']

/-- With a cut at every byte no frame is lost, also before a length that is not allowed. -/
theorem feedAll_bytewise_of_oversized {limit : Int} {s : Bytes} {length : Nat}
    (bad : IsOversized limit length (split limit s).rest) :
    ((Decoder.fresh limit).feedAll (s.map fun b => [b])).failure = some (.tooLarge length limit) ∧
      ((Decoder.fresh limit).feedAll (s.map fun b => [b])).frames = (split limit s).frames := by
  have stream := (flatten_bytewise s).trans (split_lossless limit s).symm
  obtain ⟨failure, -, all⟩ := Decoder.feedAll_fresh_of_oversized (split_fits limit s) bad stream
  refine ⟨failure, all.mpr ⟨((split limit s).frames.flatMap wrap).length, ?_⟩⟩
  have size := congrArg List.length (split_lossless limit s)
  rw [List.length_append] at size
  rw [← List.map_take, flatten_bytewise, List.length_take, headerSize]
  omega

/-- An ending of reading a stream, and what a decoder came to that was fed the same stream. -/
structure Agree (reading : Reading) (got : Intake) : Prop where
  ended : reading = .finished ∨ ∃ error, reading = .failed (.frame error)
  finished : reading = .finished ↔ got.failure = none ∧ got.decoder.pending = 0
  headerCut : ∀ k, reading = .failed (.frame (.headerCut k)) ↔
    got.failure = none ∧ got.decoder.pending = k ∧ 1 ≤ k ∧ k ≤ 3
  bodyCut : ∀ k length, reading = .failed (.frame (.bodyCut k length)) ↔
    got.failure = none ∧ got.decoder.pending = 4 + k ∧
      ∃ body, got.decoder.buffer = Bytes.ofWord length ++ body ∧ length < Bytes.wordCount
  tooLarge : ∀ length limit, reading = .failed (.frame (.tooLarge length limit)) ↔
    got.failure = some (.tooLarge length limit)

-- The ending decides each statement: one of them holds of it and the others fail on both sides.
theorem Agree.of_empty (limit : Int) (frames : List Bytes) :
    Agree (Reader.holding limit []).readAll.2 ⟨{ limit, buffer := [] }, frames, none⟩ := by
  rw [Reader.readAll_nil]
  constructor <;> simp [Decoder.pending]
  omega

theorem Agree.of_headerCut (limit : Int) {s : Bytes} (frames : List Bytes) (some : s ≠ [])
    (short : s.length < headerSize) :
    Agree (Reader.holding limit s).readAll.2 ⟨{ limit, buffer := s }, frames, none⟩ := by
  have positive : 0 < s.length := List.length_pos_iff.mpr some
  have few : s.length < 4 := short
  rw [Reader.readAll_of_headerCut some short]
  constructor <;> simp [Decoder.pending, some]
  all_goals omega

theorem Agree.of_bodyCut {limit : Int} {length : Nat} {body : Bytes} (frames : List Bytes)
    (short : length < Bytes.wordCount) (allowed : (length : Int) ≤ limit)
    (inside : body.length < length) :
    Agree (Reader.holding limit (Bytes.ofWord length ++ body)).readAll.2
      ⟨{ limit, buffer := Bytes.ofWord length ++ body }, frames, none⟩ := by
  rw [Reader.readAll_of_bodyCut short allowed inside]
  have size : (Bytes.ofWord length ++ body).length = 4 + body.length := by
    rw [List.length_append, Bytes.length_ofWord]
  constructor <;> simp only [Decoder.pending, size]
  · simp
  · simp
  · intro k
    simp
    omega
  · intro k n
    constructor
    · intro same
      cases same
      exact ⟨trivial, rfl, body, rfl, short⟩
    · rintro ⟨-, pending, other, announced, fits⟩
      obtain ⟨rfl, rfl⟩ := Bytes.ofWord_append_inj short fits announced
      obtain rfl : body.length = k := by omega
      rfl
  · simp

theorem Agree.of_oversized {limit : Int} {length : Nat} {s : Bytes} (d : Decoder)
    (frames : List Bytes) (bad : IsOversized limit length s) :
    Agree (Reader.holding limit s).readAll.2 ⟨d, frames, some (.tooLarge length limit)⟩ := by
  rw [Reader.readAll_of_oversized bad]
  constructor <;> simp

/-- Reading a stream to its end and feeding it byte by byte to a decoder are the same: the same
frames come out, and the endings correspond. -/
theorem readAll_agrees (limit : Int) (s : Bytes) :
    (Reader.holding limit s).readAll.1 =
        ((Decoder.fresh limit).feedAll (s.map fun b => [b])).frames ∧
      Agree (Reader.holding limit s).readAll.2
        ((Decoder.fresh limit).feedAll (s.map fun b => [b])) := by
  rw [Reader.readAll_holding]
  obtain ⟨allowed, cut⟩ | ⟨length, -, bad⟩ := split_rest limit s
  · rw [← flatten_bytewise s] at allowed
    rw [Decoder.feedAll_fresh_of_allowed allowed, flatten_bytewise]
    refine ⟨rfl, ?_⟩
    obtain short | ⟨length, body, same, short, fits, inside⟩ := cut
    · by_cases empty : (split limit s).rest = []
      · rw [empty]
        exact .of_empty limit _
      · exact .of_headerCut limit _ empty short
    · rw [same]
      exact .of_bodyCut _ short fits inside
  · obtain ⟨failure, frames⟩ := feedAll_bytewise_of_oversized bad
    refine ⟨frames.symm, ?_⟩
    cases fed : (Decoder.fresh limit).feedAll (s.map fun b => [b]) with
    | mk d got reason =>
      rw [fed] at failure
      cases failure
      exact .of_oversized d got bad

example : (Reader.holding 8 [0, 0, 0, 0, 0, 0, 0, 2, 5]).readAll =
    ([[]], .failed (.frame (.bodyCut 1 2))) := by cbv

end BurstLoad.Frame
