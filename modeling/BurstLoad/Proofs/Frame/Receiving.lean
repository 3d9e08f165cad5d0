import BurstLoad.Proofs.Frame.Arrival
import BurstLoad.Link

/-! Receiving frames, one call after the other, while a stream arrives. Up to the first failure a caller
hears what the other side sent. A caller that goes on after a failure does not: the place in the
stream is lost, so that bytes of a refused frame are read as lengths, and a stream that was cut
inside a frame ends cleanly. -/

set_option autoImplicit false

namespace BurstLoad

open BurstLoad.Frame (Reading Reader Fits IsPartial IsOversized wrap scan headerSize)

namespace Frame

/-- The stream ended inside a frame. -/
def Error.IsCut : Error → Prop
  | .headerCut _ | .bodyCut _ _ => True
  | .tooLarge _ _ => False

def Reading.frame? : Reading → Option Bytes
  | .frame body => some body
  | .pending | .finished | .failed _ => none

def Reading.isFailure : Reading → Bool
  | .failed _ => true
  | .pending | .frame _ | .finished => false

/-- The frames among some readings. -/
def framesOf (readings : List Reading) : List Bytes :=
  readings.filterMap Reading.frame?

theorem framesOf_append (first second : List Reading) :
    framesOf (first ++ second) = framesOf first ++ framesOf second :=
  List.filterMap_append

theorem framesOf_failed (fault : Fault) (rest : List Reading) :
    framesOf (.failed fault :: rest) = framesOf rest :=
  rfl

theorem mem_framesOf {readings : List Reading} {body : Bytes} :
    body ∈ framesOf readings ↔ .frame body ∈ readings := by
  rw [framesOf, List.mem_filterMap]
  constructor
  · rintro ⟨reading, member, same⟩
    cases reading with
    | frame => cases same; exact member
    | pending | finished | failed => cases same
  · exact fun member => ⟨_, member, rfl⟩

theorem eq_of_mapM_encode {payloads frames : List Bytes}
    (framed : payloads.mapM (encode maxLength) = .ok frames) :
    frames = payloads.map wrap ∧ ∀ p ∈ payloads, p.length < Bytes.wordCount := by
  induction payloads generalizing frames with
  | nil =>
    cases framed
    exact ⟨rfl, by simp⟩
  | cons payload rest ih =>
    rw [List.mapM_cons] at framed
    cases first : encode maxLength payload with
    | error => simp [first, bind, Except.bind] at framed
    | ok frame =>
      cases others : rest.mapM (encode maxLength) with
      | error => simp [first, others, bind, Except.bind] at framed
      | ok more =>
        simp only [first, others, bind, Except.bind, pure, Except.pure, Except.ok.injEq] at framed
        obtain ⟨rfl, short⟩ := eq_of_encode_maxLength first
        obtain ⟨rfl, shorter⟩ := ih others
        exact ⟨framed.symm, List.forall_mem_cons.mpr ⟨short, shorter⟩⟩

/-! What stands at the head of a stream of frames. -/

variable {payloads : List Bytes} {length : Nat} {body rest : Bytes}

theorem exists_of_ofWord_prefix (short : ∀ p ∈ payloads, p.length < Bytes.wordCount)
    (word : length < Bytes.wordCount)
    (stream : Bytes.ofWord length ++ rest <+: payloads.flatMap wrap) :
    ∃ payload more, payloads = payload :: more ∧ payload.length = length ∧
      rest <+: payload ++ more.flatMap wrap := by
  obtain ⟨tail, same⟩ := stream
  cases payloads with
  | nil => cases same
  | cons payload more =>
    rw [List.flatMap_cons, wrap, List.append_assoc, List.append_assoc] at same
    obtain ⟨lengths, left⟩ := Bytes.ofWord_append_inj word (short payload List.mem_cons_self) same
    exact ⟨payload, more, rfl, lengths.symm, tail, left⟩

theorem exists_of_wrap_prefix (short : ∀ p ∈ payloads, p.length < Bytes.wordCount)
    (word : body.length < Bytes.wordCount) (stream : wrap body ++ rest <+: payloads.flatMap wrap) :
    ∃ more, payloads = body :: more ∧ rest <+: more.flatMap wrap := by
  rw [wrap, List.append_assoc] at stream
  obtain ⟨payload, more, rfl, size, tail, same⟩ := exists_of_ofWord_prefix short word stream
  rw [List.append_assoc] at same
  obtain ⟨rfl, left⟩ := List.append_inj same size.symm
  exact ⟨more, rfl, tail, left⟩

namespace Reader

/-- What is left of a stream to be read, and whether its end has come. -/
structure Place where
  left : Bytes
  closed : Bool

/-- A reader stands at a place: it begins to read there, or goes on. -/
inductive Stands (limit : Int) : Place → Reader → Prop where
  | begins (left : Bytes) (closed : Bool) : Stands limit ⟨left, closed⟩ (before limit left closed)
  | goesOn {r : Reader} {left : Bytes} : r.limit = limit → r.Holds left →
    Stands limit ⟨left, r.closed⟩ r

/-- What a reader at a place answers, and where it begins then: one case for each way. -/
inductive Reply (limit : Int) : Place → Place → Reading → Prop where
  | frame {payload rest : Bytes} {closed : Bool} : Fits limit payload →
    Reply limit ⟨wrap payload ++ rest, closed⟩ ⟨rest, closed⟩ (.frame payload)
  | refused {length : Nat} {rest : Bytes} {closed : Bool} : length < Bytes.wordCount → limit < length →
    Reply limit ⟨Bytes.ofWord length ++ rest, closed⟩ ⟨rest, closed⟩
      (.failed (.frame (.tooLarge length limit)))
  | finished : Reply limit ⟨[], true⟩ ⟨[], true⟩ .finished
  | cut {left : Bytes} {error : Error} : left ≠ [] → IsPartial limit left → error.IsCut →
    Reply limit ⟨left, true⟩ ⟨[], true⟩ (.failed (.frame error))

variable {limit : Int} {p : Place} {r : Reader}

theorem Stands.read_eq (stands : r.Stands limit p) : r.read = (before limit p.left p.closed).read := by
  cases stands with
  | begins => rfl
  | goesOn bounded holds => rw [holds.read_eq, bounded]

/-- At the end of a stream what is left of a frame is given up. -/
theorem read_before_of_end {left : Bytes} (cut : IsPartial limit left) (some : left ≠ []) :
    ∃ error : Error, error.IsCut ∧
      (before limit left true).read = (before limit [] true, .failed (.frame error)) := by
  change ∃ error : Error, error.IsCut ∧ (before limit left true).readHeader = _
  obtain short | ⟨length, body, rfl, short, allowed, inside⟩ := cut
  · refine ⟨.headerCut left.length, trivial, ?_⟩
    simp [before, readHeader, Bytes.takeWord?_eq_none short, some]
  · refine ⟨.bodyCut body.length length, trivial, ?_⟩
    rw [readHeader_before body short allowed]
    simp [before, readBody, inside]

/-- A reader waits where it stands, or it answers. -/
theorem Stands.read (stands : r.Stands limit p) :
    (∃ next : Reader, r.read = (next, .pending) ∧ next.Stands limit p) ∨
      ∃ place reading, r.read = (before limit place.left place.closed, reading) ∧
        Reply limit p place reading := by
  rw [stands.read_eq]
  obtain ⟨left, closed⟩ := p
  cases head : scan limit left with
  | frame payload rest =>
    obtain ⟨rfl, fits⟩ := Frame.scan_eq_frame_iff.mp head
    exact .inr ⟨⟨rest, closed⟩, _, read_before_wrap_append fits rest closed, .frame fits⟩
  | tooLarge length =>
    obtain ⟨⟨more, rfl⟩, short, beyond⟩ := Frame.scan_eq_tooLarge_iff.mp head
    exact .inr ⟨⟨more, closed⟩, _, read_before_of_beyond short beyond more closed,
      .refused short beyond⟩
  | incomplete =>
    have cut := Frame.scan_eq_incomplete_iff.mp head
    cases closed with
    | false =>
      obtain ⟨next, step, awaits⟩ := read_before_of_partial cut
      have goesOn := Stands.goesOn awaits.bounded awaits.holds
      rw [awaits.isOpen] at goesOn
      exact .inl ⟨next, step, goesOn⟩
    | true =>
      by_cases empty : left = []
      · subst empty
        exact .inr ⟨⟨[], true⟩, _, rfl, .finished⟩
      · obtain ⟨error, isCut, step⟩ := read_before_of_end cut empty
        exact .inr ⟨⟨[], true⟩, _, step, .cut empty cut isCut⟩

end Reader

end Frame

namespace Link

open BurstLoad.Frame.Reader (Place Stands Reply before)

/-- What happens to a connection whose frames are received: bytes arrive, the stream comes to its end, or
the caller asks for a frame. -/
inductive Call where
  | arrive (chunk : Bytes)
  | finish
  | receive

namespace Call

def bytes : Call → Bytes
  | .arrive chunk => chunk
  | .finish | .receive => []

def ends : Call → Bool
  | .finish => true
  | .arrive _ | .receive => false

def asks : Call → Bool
  | .receive => true
  | .arrive _ | .finish => false

def change (call : Call) (r : Reader) : Reader :=
  match call with
  | .arrive chunk => r.feed chunk
  | .finish => r.close
  | .receive => r

end Call

/-- A connection after a call, and what is answered: a caller that waits is answered as soon as it can
be. -/
def answer (l : Link) (call : Call) : Link × Option Reading :=
  let next := { l with reader := call.change l.reader }
  if call.asks || l.reader.awaited.isSome then
    match next.receive with
    | (next, .pending) => (next, none)
    | (next, reading) => (next, some reading)
  else (next, none)

/-- All that a caller hears. -/
def answers : List Call → Link → List Reading
  | [], _ => []
  | call :: rest, l => (l.answer call).2.toList ++ answers rest (l.answer call).1

theorem answers_of_none {l next : Link} {call : Call} (silent : l.answer call = (next, none))
    (rest : List Call) : l.answers (call :: rest) = next.answers rest := by
  rw [answers, silent]
  rfl

theorem answers_of_some {l next : Link} {call : Call} {reading : Reading}
    (answered : l.answer call = (next, some reading)) (rest : List Call) :
    l.answers (call :: rest) = reading :: next.answers rest := by
  rw [answers, answered]
  rfl

/-- The bytes that arrive in the course of some calls. -/
def delivered (calls : List Call) : Bytes :=
  calls.flatMap Call.bytes

/-- Nothing arrives after the end of a stream. -/
def Orderly (calls : List Call) : Prop :=
  calls.Pairwise fun before after => before.ends = true → after.bytes = []

/-- Where a reader stands after a call, before it answers. -/
def after (p : Place) (call : Call) : Place :=
  ⟨p.left ++ call.bytes, p.closed || call.ends⟩

variable {limit : Int} {p : Place} {l : Link}

theorem stands_change {r : Reader} (stands : r.Stands limit p) (call : Call) :
    (call.change r).Stands limit (after p call) := by
  cases call with
  | receive =>
    simp only [Call.change, after, Call.bytes, Call.ends, List.append_nil, Bool.or_false]
    exact stands
  | finish =>
    simp only [Call.change, after, Call.bytes, Call.ends, List.append_nil, Bool.or_true]
    cases stands with
    | begins left closed => exact .begins left true
    | goesOn bounded holds => exact .goesOn (r := r.close) bounded ⟨holds.whole, holds.place⟩
  | arrive chunk =>
    simp only [Call.change, after, Call.bytes, Call.ends, Bool.or_false]
    cases stands with
    | begins left closed =>
      rw [Frame.Reader.feed_before]
      exact .begins _ closed
    | goesOn bounded holds =>
      rw [← r.closed_feed chunk]
      exact .goesOn ((r.limit_feed chunk).trans bounded) (holds.feed chunk)

/-- A call is answered with what the reader has to say, or not yet. -/
theorem answer_cases (stands : l.reader.Stands limit p) (call : Call) :
    (∃ next : Reader, l.answer call = ({ l with reader := next }, none) ∧
      next.Stands limit (after p call)) ∨
    ∃ place reading,
      l.answer call = ({ l with reader := before limit place.left place.closed }, some reading) ∧
        Reply limit (after p call) place reading := by
  have changed := stands_change stands call
  generalize after p call = q at changed ⊢
  unfold answer
  dsimp only
  split
  · rw [receive, Link.read]
    obtain ⟨next, step, here⟩ | ⟨place, reading, step, reply⟩ := changed.read
    · rw [step]
      exact .inl ⟨next, rfl, here⟩
    · refine .inr ⟨place, reading, ?_, reply⟩
      rw [step]
      cases reply <;> rfl
  · exact .inl ⟨_, rfl, changed⟩

/-- From a place on, with some bytes left, the stream comes to its end after so many whole frames. -/
structure EndsWhole (payloads : List Bytes) (calls : List Call) (left : Bytes) (closed : Bool) :
    Prop where
  closed : closed = true ∨ ∃ call ∈ calls, call.ends = true
  whole : ∃ count, left ++ delivered calls = (payloads.take count).flatMap wrap

/-- What is heard from the first failure on. -/
inductive AfterFailure (limit : Int) (payloads : List Bytes) (calls : List Call) (left : Bytes)
    (closed : Bool) (l : Link) (got : List Reading) : List Reading → Prop where
  | none : AfterFailure limit payloads calls left closed l got []
  -- a stream that was cut inside a frame ends cleanly from then on
  | cut {error : Frame.Error} {later : List Reading} : error.IsCut →
    ¬ EndsWhole payloads calls left closed → (∀ reading ∈ later, reading = .finished) →
    AfterFailure limit payloads calls left closed l got (.failed (.frame error) :: later)
  -- the bytes of a refused payload are read as though they were frames
  | refused {first rest : List Call} {payload behind : Bytes} {ended : Bool} :
    calls = first ++ rest → payloads[(Frame.framesOf got).length]? = some payload →
    limit < payload.length →
    left ++ delivered first =
      (payloads.take (Frame.framesOf got).length).flatMap wrap ++ Bytes.ofWord payload.length ++ behind →
    behind ++ delivered rest <+:
      payload ++ (payloads.drop ((Frame.framesOf got).length + 1)).flatMap wrap →
    ended = (closed || first.any Call.ends) →
    AfterFailure limit payloads calls left closed l got
      (.failed (.frame (.tooLarge payload.length limit)) ::
        answers rest { l with reader := before limit behind ended })

/-- What is heard from a place on, with the payloads that are still to come there. -/
structure Heard (limit : Int) (payloads : List Bytes) (calls : List Call) (left : Bytes) (closed : Bool)
    (l : Link) (got later : List Reading) : Prop where
  unfailed : ∀ reading ∈ got, reading.isFailure = false
  frames : Frame.framesOf got <+: payloads
  finished : Reading.finished ∈ got → EndsWhole payloads calls left closed
  afterFailure : AfterFailure limit payloads calls left closed l got later

section Heard

variable {payloads : List Bytes} {calls : List Call} {left : Bytes} {closed : Bool}
  {got later : List Reading}

theorem endsWhole_after (call : Call) : EndsWhole payloads (call :: calls) left closed ↔
    EndsWhole payloads calls (left ++ call.bytes) (closed || call.ends) := by
  constructor
  · rintro ⟨ended, whole⟩
    refine ⟨?_, by simpa [delivered] using whole⟩
    simpa [or_assoc] using ended
  · rintro ⟨ended, whole⟩
    refine ⟨?_, by simpa [delivered] using whole⟩
    simpa [or_assoc] using ended

theorem endsWhole_frame (payload : Bytes) :
    EndsWhole (payload :: payloads) calls (wrap payload ++ left) closed ↔
      EndsWhole payloads calls left closed := by
  constructor
  · rintro ⟨ended, count, whole⟩
    cases count with
    | zero => simp [wrap, Bytes.ofWord] at whole
    | succ count => exact ⟨ended, count, by simpa using whole⟩
  · rintro ⟨ended, count, whole⟩
    exact ⟨ended, count + 1, by simpa using whole⟩

theorem Heard.of_reader {r : Reader}
    (heard : Heard limit payloads calls left closed { l with reader := r } got later) :
    Heard limit payloads calls left closed l got later := by
  refine { heard with afterFailure := ?_ }
  cases heard.afterFailure with
  | none => exact .none
  | cut isCut inside silent => exact .cut isCut inside silent
  | refused whole known beyond place onward ended =>
    exact .refused whole known beyond place onward ended

theorem Heard.after {call : Call}
    (heard : Heard limit payloads calls (left ++ call.bytes) (closed || call.ends) l got later) :
    Heard limit payloads (call :: calls) left closed l got later := by
  refine ⟨heard.unfailed, heard.frames, fun ended => (endsWhole_after call).mpr (heard.finished ended), ?_⟩
  cases heard.afterFailure with
  | none => exact .none
  | cut isCut inside silent => exact .cut isCut (inside ∘ (endsWhole_after call).mp) silent
  | @refused first rest _ _ _ whole known beyond place onward ended =>
    have prolonged : left ++ delivered (call :: first) = left ++ call.bytes ++ delivered first := by
      simp [delivered]
    refine .refused (congrArg (call :: ·) whole) known beyond (prolonged.trans place) onward ?_
    rw [ended, List.any_cons, Bool.or_assoc]

theorem Heard.frame {payload : Bytes} (heard : Heard limit payloads calls left closed l got later) :
    Heard limit (payload :: payloads) calls (wrap payload ++ left) closed l
      (.frame payload :: got) later := by
  refine ⟨?_, ?_, fun ended => ?_, ?_⟩
  · exact List.forall_mem_cons.mpr ⟨rfl, heard.unfailed⟩
  · exact List.cons_prefix_cons.mpr ⟨rfl, heard.frames⟩
  · rw [endsWhole_frame]
    exact heard.finished (by simpa using ended)
  · cases heard.afterFailure with
    | none => exact .none
    | cut isCut inside silent => exact .cut isCut (inside ∘ (endsWhole_frame payload).mp) silent
    | refused whole known beyond place onward ended =>
      refine .refused whole known beyond ?_ onward ended
      rw [List.append_assoc, place]
      simp [Frame.framesOf, Reading.frame?]

theorem Heard.finish (heard : Heard limit payloads calls [] true l got later)
    (silent : delivered calls = []) :
    Heard limit payloads calls [] true l (.finished :: got) later := by
  refine ⟨List.forall_mem_cons.mpr ⟨rfl, heard.unfailed⟩, heard.frames,
    fun _ => ⟨.inl rfl, 0, silent⟩, ?_⟩
  cases heard.afterFailure with
  | none => exact .none
  | cut isCut inside silent => exact .cut isCut inside silent
  | refused whole known beyond place onward ended =>
    exact .refused whole known beyond place onward ended

end Heard

/-- Once the end of a stream was come to, nothing but this is heard. -/
theorem eq_finished_of_end {calls : List Call} (stands : l.reader.Stands limit ⟨[], true⟩)
    (silent : ∀ call ∈ calls, call.bytes = []) : ∀ reading ∈ l.answers calls, reading = .finished := by
  induction calls generalizing l with
  | nil => simp [answers]
  | cons call rest ih =>
    rw [List.forall_mem_cons] at silent
    have unmoved : after ⟨[], true⟩ call = ⟨[], true⟩ := by simp [after, silent.1]
    have answered := answer_cases stands call
    rw [unmoved] at answered
    obtain ⟨next, answered, here⟩ | ⟨place, reading, answered, reply⟩ := answered
    · rw [answers_of_none answered]
      exact ih (l := { l with reader := next }) here silent.2
    · rw [answers_of_some answered]
      generalize start : (⟨[], true⟩ : Place) = first at reply
      cases reply with
      | frame | refused => simp [wrap, Bytes.ofWord] at start
      | finished => exact List.forall_mem_cons.mpr ⟨rfl, ih (.begins [] true) silent.2⟩
      | cut some => exact absurd (congrArg Place.left start).symm some

theorem not_flatMap_of_partial {payloads : List Bytes} {left : Bytes} (some : left ≠ [])
    (cut : IsPartial limit left) (short : ∀ p ∈ payloads, p.length < Bytes.wordCount) :
    left ≠ payloads.flatMap wrap := by
  rintro rfl
  cases payloads with
  | nil => exact some rfl
  | cons payload more =>
    obtain tiny | ⟨length, body, same, word, allowed, inside⟩ := cut
    · simp only [List.flatMap_cons, wrap, List.length_append, Bytes.length_ofWord, headerSize] at tiny
      omega
    · rw [List.flatMap_cons, wrap, List.append_assoc] at same
      obtain ⟨rfl, rfl⟩ := Bytes.ofWord_append_inj (short payload List.mem_cons_self) word same
      rw [List.length_append] at inside
      omega

theorem exists_heard {payloads : List Bytes} {calls : List Call} (stands : l.reader.Stands limit p)
    (orderly : Orderly calls) (silent : p.closed = true → ∀ call ∈ calls, call.bytes = [])
    (short : ∀ p ∈ payloads, p.length < Bytes.wordCount)
    (stream : p.left ++ delivered calls <+: payloads.flatMap wrap) :
    ∃ got later, l.answers calls = got ++ later ∧
      Heard limit payloads calls p.left p.closed l got later := by
  induction calls generalizing l p payloads with
  | nil => exact ⟨[], [], rfl, by simp, List.nil_prefix, nofun, .none⟩
  | cons call rest ih =>
    rw [Orderly, List.pairwise_cons] at orderly
    obtain ⟨still, orderly⟩ := orderly
    have quiet (closed : (after p call).closed = true) : ∀ other ∈ rest, other.bytes = [] := by
      intro other member
      obtain before | ends := Bool.or_eq_true_iff.mp closed
      · exact silent before other (List.mem_cons_of_mem call member)
      · exact still other member ends
    have onward : (after p call).left ++ delivered rest <+: payloads.flatMap wrap := by
      simpa [after, delivered] using stream
    have answered := answer_cases stands call
    suffices told : ∃ got later, l.answers (call :: rest) = got ++ later ∧
        Heard limit payloads rest (after p call).left (after p call).closed l got later by
      obtain ⟨got, later, heard, told⟩ := told
      exact ⟨got, later, heard, told.after⟩
    generalize after p call = place at quiet onward answered ⊢
    obtain ⟨next, answered, here⟩ | ⟨last, reading, answered, reply⟩ := answered
    · obtain ⟨got, later, heard, told⟩ :=
        ih (l := { l with reader := next }) here orderly quiet short onward
      exact ⟨got, later, (answers_of_none answered rest).trans heard, told.of_reader⟩
    · rw [answers_of_some answered]
      cases reply with
      | @frame payload behind closed fits =>
        rw [List.append_assoc] at onward
        obtain ⟨more, rfl, ahead⟩ := Frame.exists_of_wrap_prefix short fits.2 onward
        obtain ⟨got, later, heard, told⟩ :=
          ih (l := { l with reader := before limit behind closed }) (.begins behind closed) orderly quiet
            (List.forall_mem_cons.mp short).2 ahead
        exact ⟨.frame payload :: got, later, congrArg (.frame payload :: ·) heard,
          told.of_reader.frame⟩
      | @refused length behind closed word beyond =>
        rw [List.append_assoc] at onward
        obtain ⟨payload, more, rfl, rfl, ahead⟩ := Frame.exists_of_ofWord_prefix short word onward
        have place : Bytes.ofWord payload.length ++ behind ++ delivered [] =
            Bytes.ofWord payload.length ++ behind := by simp [delivered]
        refine ⟨[], _, rfl, by simp, List.nil_prefix, nofun, ?_⟩
        exact .refused (List.nil_append rest).symm rfl beyond place ahead (by simp)
      | finished =>
        obtain ⟨got, later, heard, told⟩ :=
          ih (l := { l with reader := before limit [] true }) (.begins [] true) orderly quiet short onward
        refine ⟨.finished :: got, later, congrArg (.finished :: ·) heard, told.of_reader.finish ?_⟩
        exact List.flatMap_eq_nil_iff.mpr (quiet rfl)
      | @cut left error some cut isCut =>
        refine ⟨[], _, rfl, by simp, List.nil_prefix, nofun, ?_⟩
        refine .cut isCut (fun whole => ?_) (eq_finished_of_end (.begins [] true) (quiet rfl))
        obtain ⟨count, same⟩ := whole.whole
        rw [delivered, List.flatMap_eq_nil_iff.mpr (quiet rfl), List.append_nil] at same
        exact not_flatMap_of_partial some cut (fun p member => short p (List.mem_of_mem_take member)) same

theorem fits_of_mem_answers {calls : List Call} (stands : l.reader.Stands limit p) {body : Bytes}
    (heard : .frame body ∈ l.answers calls) : Fits limit body := by
  induction calls generalizing l p with
  | nil => cases heard
  | cons call rest ih =>
    obtain ⟨next, answered, here⟩ | ⟨place, reading, answered, reply⟩ := answer_cases stands call
    · rw [answers_of_none answered] at heard
      exact ih (l := { l with reader := next }) here heard
    · rw [answers_of_some answered] at heard
      obtain now | later := List.mem_cons.mp heard
      · generalize after p call = start at reply
        subst now
        cases reply with
        | frame fits => exact fits
      · exact ih (.begins place.left place.closed) later

/-- The frames are the first payloads that were sent, and an end is heard only where the stream ended
after a whole frame. -/
structure IsFaithful (payloads : List Bytes) (calls : List Call) (heard : List Reading) : Prop where
  frames : Frame.framesOf heard <+: payloads
  finished : .finished ∈ heard → EndsWhole payloads calls [] false

theorem framesOf_eq_nil_of_faithful {payloads : List Bytes} {calls : List Call} {got later : List Reading}
    {left : Bytes} {closed : Bool} (told : Heard limit payloads calls left closed l got later)
    (faithful : Frame.framesOf (got ++ later) <+: payloads) : Frame.framesOf later = [] := by
  cases told.afterFailure with
  | none => rfl
  | cut _ _ silent =>
    refine List.filterMap_eq_nil_iff.mpr fun reading member => ?_
    obtain rfl | after := List.mem_cons.mp member
    · rfl
    · rw [silent reading after]
      rfl
  | @refused first rest payload behind ended _ known beyond =>
    -- The next frame would have to be the one that was refused.
    cases frames : Frame.framesOf (answers rest { l with reader := before limit behind ended }) with
    | nil => exact frames
    | cons body more =>
      have member : body ∈ Frame.framesOf (answers rest { l with reader := before limit behind ended }) := by
        simp [frames]
      have fits := fits_of_mem_answers (.begins behind ended) (Frame.mem_framesOf.mp member)
      obtain ⟨tail, same⟩ := faithful
      have next : payloads[(Frame.framesOf got).length]? = some body := by
        rw [← same, Frame.framesOf_append, Frame.framesOf_failed, frames]
        simp
      cases known.symm.trans next
      have := fits.1
      omega

/-- Up to the first failure a caller hears what was sent, and after it only if no more frames are heard,
and no end that is none. -/
theorem exists_heard_of_stream {payloads frames : List Bytes} {calls : List Call}
    (fresh : l.reader = { limit }) (framed : payloads.mapM (Frame.encode Frame.maxLength) = .ok frames)
    (orderly : Orderly calls) (stream : delivered calls <+: frames.flatten) :
    ∃ got later, l.answers calls = got ++ later ∧ Heard limit payloads calls [] false l got later ∧
      (IsFaithful payloads calls (l.answers calls) ↔ Frame.framesOf later = [] ∧
        (.finished ∈ later → EndsWhole payloads calls [] false)) := by
  obtain ⟨rfl, short⟩ := Frame.eq_of_mapM_encode framed
  have stands : l.reader.Stands limit ⟨[], false⟩ := by
    rw [fresh]
    exact .begins [] false
  obtain ⟨got, later, heard, told⟩ := exists_heard stands orderly nofun short
    (by rw [List.flatMap_def]; exact stream)
  refine ⟨got, later, heard, told, ?_⟩
  rw [heard]
  constructor
  · intro faithful
    refine ⟨framesOf_eq_nil_of_faithful told faithful.frames, fun ended => ?_⟩
    exact faithful.finished (List.mem_append_right got ended)
  · rintro ⟨none, ended⟩
    refine ⟨?_, fun member => (List.mem_append.mp member).elim told.finished ended⟩
    rw [Frame.framesOf_append, none, List.append_nil]
    exact told.frames

def narrow : Link :=
  { wire := { address := default, plan := .smooth }, reader := { limit := 8 } }

/-- The stream ends inside the length of its second frame. -/
def cutCalls : List Call :=
  [.receive, .arrive [0, 0, 0], .arrive [1, 97, 0, 0], .receive, .finish, .receive]

theorem exists_heard_cutCalls :
    narrow.answers cutCalls =
        [.frame [97], .failed (.frame (.headerCut 2)), .finished] ∧
      ∃ got later, narrow.answers cutCalls = got ++ later ∧
        Heard 8 [[97], [98]] cutCalls [] false narrow got later ∧
        (IsFaithful [[97], [98]] cutCalls (narrow.answers cutCalls) ↔ Frame.framesOf later = [] ∧
          (.finished ∈ later → EndsWhole [[97], [98]] cutCalls [] false)) := by
  have orderly : Orderly cutCalls := by
    unfold Orderly
    simp [cutCalls, Call.ends, Call.bytes]
  have framed : [[97], [98]].mapM (Frame.encode Frame.maxLength) =
      .ok [[0, 0, 0, 1, 97], [0, 0, 0, 1, 98]] := rfl
  exact ⟨rfl, exists_heard_of_stream rfl framed orderly ⟨[0, 1, 98], rfl⟩⟩

/-- A frame that is longer than what may be received, and whose payload begins with four zeros. -/
def refusedCalls : List Call :=
  [.arrive [0, 0, 0, 9, 0, 0, 0, 0, 255, 255, 255, 255, 255], .receive, .receive]

/-- After the refusal a frame is heard that nobody sent, and after the cut an end that is none. -/
theorem not_isFaithful_refusedCalls :
    narrow.answers refusedCalls = [.failed (.frame (.tooLarge 9 8)), .frame []] ∧
      ¬ IsFaithful [[0, 0, 0, 0, 255, 255, 255, 255, 255]] refusedCalls
        (narrow.answers refusedCalls) ∧
      ¬ IsFaithful [[97], [98]] cutCalls (narrow.answers cutCalls) := by
  have refused : narrow.answers refusedCalls = [.failed (.frame (.tooLarge 9 8)), .frame []] := rfl
  refine ⟨refused, fun faithful => ?_, fun faithful => ?_⟩
  · have sent := faithful.frames
    rw [refused] at sent
    obtain ⟨tail, same⟩ := sent
    cases same
  · obtain ⟨-, count, whole⟩ := faithful.finished (List.mem_of_getElem? (i := 2) rfl)
    match count with
    | 0 => cases whole
    | 1 => cases whole
    | count + 2 => cases whole

end Link

end BurstLoad
