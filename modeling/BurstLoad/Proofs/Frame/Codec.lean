import BurstLoad.Frame.Codec

/-! Frames are a prefix code: a byte string is split into whole frames in one way only, and what
stands after them is either the beginning of one more frame or a length that is not allowed. What
more bytes add never changes the frames that stood there before. -/

set_option autoImplicit false

namespace BurstLoad.Frame

/-- A payload that a decoder with this limit gives out. -/
def Fits (limit : Int) (payload : Bytes) : Prop :=
  payload.length ≤ limit ∧ payload.length < Bytes.wordCount

/-- A proper beginning of one frame that is allowed. -/
def IsPartial (limit : Int) (s : Bytes) : Prop :=
  s.length < headerSize ∨
    ∃ length body, s = Bytes.ofWord length ++ body ∧ length < Bytes.wordCount ∧
      length ≤ limit ∧ body.length < length

/-- The beginning of a frame that is not allowed, its length at least. -/
def IsOversized (limit : Int) (length : Nat) (s : Bytes) : Prop :=
  (∃ more, s = Bytes.ofWord length ++ more) ∧ length < Bytes.wordCount ∧ limit < length

theorem IsPartial.nil (limit : Int) : IsPartial limit [] :=
  .inl (by decide)

theorem IsPartial.length_le {limit : Int} {s : Bytes} (cut : IsPartial limit s) :
    (s.length : Int) ≤ 3 + max limit 0 := by
  obtain short | ⟨length, body, rfl, -, allowed, inside⟩ := cut
  · have : s.length < 4 := short
    omega
  · rw [List.length_append, Bytes.length_ofWord]
    omega

/-- The greatest length is the greatest word. -/
theorem lt_wordCount_iff_le_maxLength {n : Nat} : n < Bytes.wordCount ↔ (n : Int) ≤ maxLength :=
  Bytes.lt_wordCount_iff.trans Int.ofNat_le.symm

/-- A payload whose length is a word is encoded without regard to the limit of words. -/
theorem encode_maxLength {payload : Bytes} (short : payload.length < Bytes.wordCount) :
    encode maxLength payload = .ok (wrap payload) := by
  rw [encode, if_neg (Int.not_lt.mpr (lt_wordCount_iff_le_maxLength.mp short))]

theorem mapM_encode_maxLength {payloads : List Bytes}
    (short : ∀ p ∈ payloads, p.length < Bytes.wordCount) :
    payloads.mapM (encode maxLength) = .ok (payloads.map wrap) := by
  induction payloads with
  | nil => rfl
  | cons payload rest ih =>
    rw [List.mapM_cons, encode_maxLength (short payload (by simp)),
      ih fun p member => short p (List.mem_cons_of_mem payload member)]
    rfl

/-! What stands at the head, in terms of the bytes alone. -/

theorem scan_eq_frame_iff {limit : Int} {s body rest : Bytes} :
    scan limit s = .frame body rest ↔ s = wrap body ++ rest ∧ Fits limit body := by
  constructor
  · intro whole
    unfold scan at whole
    split at whole
    · cases whole
    · next length tail word =>
      obtain ⟨rfl, short⟩ := Bytes.eq_of_takeWord? word
      split at whole
      · cases whole
      · next allowed =>
        split at whole
        · cases whole
        · next enough =>
          cases whole
          have size : (tail.take length).length = length := by
            rw [List.length_take]
            omega
          refine ⟨?_, by omega, by omega⟩
          rw [wrap, size, List.append_assoc, List.take_append_drop]
  · rintro ⟨rfl, allowed, short⟩
    exact scan_wrap_append rest allowed short

theorem scan_eq_incomplete_iff {limit : Int} {s : Bytes} :
    scan limit s = .incomplete ↔ IsPartial limit s := by
  constructor
  · intro cut
    unfold scan at cut
    split at cut
    · next word => exact .inl (Bytes.length_lt_of_takeWord?_eq_none word)
    · next length tail word =>
      obtain ⟨same, short⟩ := Bytes.eq_of_takeWord? word
      split at cut
      · cases cut
      · next allowed =>
        split at cut
        · next inside => exact .inr ⟨length, tail, same, short, by omega, inside⟩
        · cases cut
  · rintro (short | ⟨length, body, rfl, short, allowed, inside⟩)
    · rw [scan, Bytes.takeWord?_eq_none short]
    · have fits : ¬ (length : Int) > limit := by omega
      simp only [scan, Bytes.takeWord?_ofWord_append, Nat.mod_eq_of_lt short, if_neg fits,
        if_pos inside]

theorem scan_eq_tooLarge_iff {limit : Int} {length : Nat} {s : Bytes} :
    scan limit s = .tooLarge length ↔ IsOversized limit length s := by
  constructor
  · intro bad
    unfold scan at bad
    split at bad
    · cases bad
    · next n tail word =>
      obtain ⟨same, short⟩ := Bytes.eq_of_takeWord? word
      split at bad
      · next beyond =>
        cases bad
        exact ⟨⟨tail, same⟩, short, by omega⟩
      · split at bad <;> cases bad
  · rintro ⟨⟨more, rfl⟩, short, beyond⟩
    have exceeds : (length : Int) > limit := by omega
    simp only [scan, Bytes.takeWord?_ofWord_append, Nat.mod_eq_of_lt short, if_pos exceeds]

theorem IsOversized.append {limit : Int} {length : Nat} {s : Bytes}
    (bad : IsOversized limit length s) (more : Bytes) : IsOversized limit length (s ++ more) := by
  obtain ⟨⟨tail, rfl⟩, short, beyond⟩ := bad
  exact ⟨⟨tail ++ more, List.append_assoc _ _ _⟩, short, beyond⟩

/-! Splitting, by what stands at the head. -/

theorem split_of_partial {limit : Int} {s : Bytes} (cut : IsPartial limit s) :
    split limit s = ⟨[], s, none⟩ := by
  have head := scan_eq_incomplete_iff.mpr cut
  rw [split]
  split
  · rfl
  · next other => rw [head] at other; cases other
  · next other => rw [head] at other; cases other

theorem split_of_oversized {limit : Int} {length : Nat} {s : Bytes}
    (bad : IsOversized limit length s) : split limit s = ⟨[], s, some length⟩ := by
  have head := scan_eq_tooLarge_iff.mpr bad
  rw [split]
  split
  · next other => rw [head] at other; cases other
  · next other =>
    rw [head] at other
    cases other
    rfl
  · next other => rw [head] at other; cases other

theorem split_wrap_append {limit : Int} {payload : Bytes} (fits : Fits limit payload)
    (rest : Bytes) :
    split limit (wrap payload ++ rest) =
      ⟨payload :: (split limit rest).frames, (split limit rest).rest,
        (split limit rest).oversized⟩ := by
  have head : scan limit (wrap payload ++ rest) = .frame payload rest :=
    scan_eq_frame_iff.mpr ⟨rfl, fits⟩
  rw [split]
  split
  · next other => rw [head] at other; cases other
  · next other => rw [head] at other; cases other
  · next other =>
    rw [head] at other
    cases other
    rfl

/-- The head of a byte string in one of three ways. Proofs about splitting follow these cases. -/
theorem split_induction (limit : Int) {motive : Bytes → Prop}
    (cut : ∀ s, IsPartial limit s → motive s)
    (bad : ∀ s length, IsOversized limit length s → motive s)
    (whole : ∀ payload rest, Fits limit payload → motive rest → motive (wrap payload ++ rest))
    (s : Bytes) : motive s := by
  -- On the length: the rest after a whole frame is shorter, but by more than one byte.
  induction size : s.length using Nat.strongRecOn generalizing s with
  | ind n ih =>
    cases head : scan limit s with
    | incomplete => exact cut s (scan_eq_incomplete_iff.mp head)
    | tooLarge length => exact bad s length (scan_eq_tooLarge_iff.mp head)
    | frame body rest =>
      obtain ⟨rfl, fits⟩ := scan_eq_frame_iff.mp head
      exact whole body rest fits (ih rest.length (size ▸ length_lt_of_scan_frame head) rest rfl)

/-- What is left after the frames is no whole frame: it is cut or oversized, as the split says. -/
theorem split_rest (limit : Int) (s : Bytes) :
    ((split limit s).oversized = none ∧ IsPartial limit (split limit s).rest) ∨
      ∃ length, (split limit s).oversized = some length ∧
        IsOversized limit length (split limit s).rest := by
  induction s using split_induction limit with
  | cut s cut =>
    rw [split_of_partial cut]
    exact .inl ⟨rfl, cut⟩
  | bad s length bad =>
    rw [split_of_oversized bad]
    exact .inr ⟨length, rfl, bad⟩
  | whole payload rest fits ih =>
    rw [split_wrap_append fits]
    exact ih

/-- No byte is lost and none is invented. -/
theorem split_lossless (limit : Int) (s : Bytes) :
    (split limit s).frames.flatMap wrap ++ (split limit s).rest = s := by
  induction s using split_induction limit with
  | cut s cut =>
    rw [split_of_partial cut]
    rfl
  | bad s length bad =>
    rw [split_of_oversized bad]
    rfl
  | whole payload rest fits ih =>
    rw [split_wrap_append fits, List.flatMap_cons, List.append_assoc, ih]

theorem split_fits (limit : Int) (s : Bytes) : ∀ p ∈ (split limit s).frames, Fits limit p := by
  induction s using split_induction limit with
  | cut s cut => simp [split_of_partial cut]
  | bad s length bad => simp [split_of_oversized bad]
  | whole payload rest fits ih =>
    rw [split_wrap_append fits]
    intro p member
    obtain rfl | member := List.mem_cons.mp member
    · exact fits
    · exact ih p member

/-- Frames that are read once stay read: more bytes only continue what was left. -/
theorem split_append (limit : Int) (s more : Bytes) :
    split limit (s ++ more) =
      ⟨(split limit s).frames ++ (split limit ((split limit s).rest ++ more)).frames,
        (split limit ((split limit s).rest ++ more)).rest,
        (split limit ((split limit s).rest ++ more)).oversized⟩ := by
  induction s using split_induction limit with
  | cut s cut => simp [split_of_partial cut]
  | bad s length bad => simp [split_of_oversized bad]
  | whole payload rest fits ih =>
    rw [List.append_assoc, split_wrap_append fits, split_wrap_append fits, ih]
    rfl

/-- Whole frames before anything at all are read as they were written. -/
theorem split_flatMap_wrap_append {limit : Int} {payloads : List Bytes}
    (fits : ∀ p ∈ payloads, Fits limit p) (rest : Bytes) :
    split limit (payloads.flatMap wrap ++ rest) =
      ⟨payloads ++ (split limit rest).frames, (split limit rest).rest,
        (split limit rest).oversized⟩ := by
  induction payloads with
  | nil => rfl
  | cons payload others ih =>
    rw [List.flatMap_cons, List.append_assoc, split_wrap_append (fits payload (by simp)),
      ih fun p member => fits p (List.mem_cons_of_mem payload member)]
    rfl

end BurstLoad.Frame
