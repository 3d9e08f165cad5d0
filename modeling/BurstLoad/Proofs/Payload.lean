import BurstLoad.Payload.Generator

/-! The layout of a transaction, and the row of transactions that a generator makes: what the one at
a place looks like depends on the counters at the start, the place, and how many make a burst. -/

set_option autoImplicit false

namespace BurstLoad.Payload

theorem word_cast (n : Int) : (word n : Int) = n % Bytes.wordCount := by
  unfold word
  exact Int.toNat_of_nonneg (Int.emod_nonneg n (by decide))

theorem word_lt (n : Int) : word n < Bytes.wordCount := by
  have cast := word_cast n
  have := Int.emod_lt_of_pos n (show (0 : Int) < Bytes.wordCount by decide)
  omega

theorem word_eq_iff {m n : Int} : word m = word n ↔ m % Bytes.wordCount = n % Bytes.wordCount := by
  rw [← word_cast, ← word_cast, Int.natCast_inj]

theorem word_eq_toNat {n : Int} (low : 0 ≤ n) (high : n ≤ Bytes.maxWord) : word n = n.toNat := by
  have below : n < Bytes.wordCount := by
    unfold Bytes.maxWord at high
    unfold Bytes.wordCount
    omega
  exact congrArg Int.toNat (Int.emod_eq_of_lt low below)

theorem word_word (n : Int) : word (word n) = word n := by
  rw [word_eq_iff, word_cast, Int.emod_emod_of_dvd n (Int.dvd_refl _)]

theorem word_add_congr {m n : Int} (same : word m = word n) (k : Int) :
    word (m + k) = word (n + k) := by
  rw [word_eq_iff] at same ⊢
  rw [Int.add_emod, same, ← Int.add_emod]

/-! The bytes of a transaction. -/

theorem length_build (tag discriminator : Int) {size : Nat} (enough : headerSize ≤ size) :
    (build tag discriminator size).length = size := by
  rw [build, List.length_append, List.length_append, Bytes.length_ofWord, Bytes.length_ofWord,
    List.length_replicate]
  unfold headerSize at enough ⊢
  omega

theorem header?_build (tag discriminator : Int) (size : Nat) :
    header? (build tag discriminator size) = some (word tag, word discriminator) := by
  unfold header? build
  rw [List.append_assoc, Bytes.takeWord?_ofWord_append, Nat.mod_eq_of_lt (word_lt tag)]
  simp only [Option.bind_eq_bind, Option.bind_some, Bytes.takeWord?_ofWord_append,
    Nat.mod_eq_of_lt (word_lt discriminator)]
  rfl

/-- Two transactions are the same exactly if they are of one size and their words are the same. -/
theorem build_eq_build_iff {tag tag' discriminator discriminator' : Int} {size size' : Nat}
    (enough : headerSize ≤ size) (enough' : headerSize ≤ size') :
    build tag discriminator size = build tag' discriminator' size' ↔
      size = size' ∧ word tag = word tag' ∧ word discriminator = word discriminator' := by
  constructor
  · intro same
    have sizes := congrArg List.length same
    have headers := congrArg header? same
    rw [length_build _ _ enough, length_build _ _ enough'] at sizes
    rw [header?_build, header?_build, Option.some.injEq, Prod.mk.injEq] at headers
    exact ⟨sizes, headers⟩
  · rintro ⟨rfl, tags, discriminators⟩
    rw [build, build, tags, discriminators]

theorem drop_build (tag discriminator : Int) (size : Nat) :
    (build tag discriminator size).drop headerSize = List.replicate (size - headerSize) 0 :=
  rfl

theorem word_sampleTag (burst : Int) :
    word (sampleTag burst) = (burst % sampleTagCount).toNat := by
  have nonneg := Int.emod_nonneg burst (show (sampleTagCount : Int) ≠ 0 by decide)
  have bounded := Int.emod_lt_of_pos burst (show (0 : Int) < sampleTagCount by decide)
  have fits : burst % sampleTagCount < Bytes.wordCount := by
    unfold sampleTagCount Bytes.wordCount at *
    omega
  exact congrArg Int.toNat (Int.emod_eq_of_lt nonneg fits)

theorem ofInitial?_eq_some_iff {runId nonce burst : Int} {c : Counters} :
    Counters.ofInitial? runId nonce burst = some c ↔
      (0 ≤ runId ∧ runId ≤ Bytes.maxWord) ∧ ⟨runId, word nonce, burst⟩ = c := by
  simp [Counters.ofInitial?]

/-! The row of transactions. -/

namespace Generator

theorem eq_of_ofSize? {honest : Bool} {size : Int} {c : Counters} {g : Generator}
    (built : ofSize? honest size c = .ok g) :
    g.honest = honest ∧ (g.size : Int) = size ∧ g.counters = c := by
  unfold ofSize? at built
  split at built
  · cases built
  · next enough =>
    cases built
    have nonneg : 0 ≤ size := by omega
    exact ⟨rfl, Int.toNat_of_nonneg nonneg, rfl⟩

/-- The transaction at a place of a run with so many in a burst. -/
def payloadAt (g : Generator) (rate place : Nat) : Bytes :=
  if g.honest then
    build (sampleTag (g.counters.burst + (place / rate : Nat))) g.counters.runId g.size
  else build fillerTag (g.counters.nonce + place + 1) g.size

/-- What a generator has become when it has made so many transactions and so many bursts are over. -/
structure Advanced (g : Generator) (made bursts : Nat) (h : Generator) : Prop where
  honest : h.honest = g.honest
  size : h.size = g.size
  runId : h.counters.runId = g.counters.runId
  burst : h.counters.burst = g.counters.burst + bursts
  -- samples do not use the nonce
  nonce : g.honest = false → word h.counters.nonce = word (g.counters.nonce + made)

variable {g h : Generator} {made bursts : Nat}

theorem length_next (g : Generator) : g.next.2.payload.length = g.size := by
  unfold next
  split <;> exact length_build _ _ g.size_ge

theorem length_payloadAt (g : Generator) (rate place : Nat) :
    (g.payloadAt rate place).length = g.size := by
  unfold payloadAt
  split <;> exact length_build _ _ g.size_ge

theorem header?_payloadAt_of_honest (honest : g.honest = true) (rate place : Nat) :
    header? (g.payloadAt rate place) =
      some (((g.counters.burst + (place / rate : Nat)) % sampleTagCount).toNat,
        word g.counters.runId) := by
  rw [payloadAt, if_pos honest, header?_build, word_sampleTag]

theorem header?_payloadAt_of_filler (filler : g.honest = false) (rate place : Nat) :
    header? (g.payloadAt rate place) =
      some (fillerTag, word (g.counters.nonce + place + 1)) := by
  rw [payloadAt, if_neg (by simp [filler]), header?_build]
  rfl

theorem drop_payloadAt (g : Generator) (rate place : Nat) :
    (g.payloadAt rate place).drop headerSize = List.replicate (g.size - headerSize) 0 := by
  unfold payloadAt
  split <;> exact drop_build _ _ _

theorem Advanced.refl (g : Generator) : g.Advanced 0 0 g :=
  ⟨rfl, rfl, rfl, (Int.add_zero _).symm, fun _ => congrArg word (Int.add_zero _).symm⟩

theorem next_of_honest (kind : h.honest = true) :
    h.next = (h, ⟨build (sampleTag h.counters.burst) h.counters.runId h.size,
      [sampleNotice h.counters]⟩) := by
  rw [next, if_pos kind]

theorem next_of_filler (kind : h.honest = false) :
    h.next = ({ h with counters := h.counters.nextNonce },
      ⟨build fillerTag h.counters.nextNonce.nonce h.size, []⟩) := by
  rw [next, if_neg (by simp [kind])]

theorem burst_next (g : Generator) : g.next.1.counters.burst = g.counters.burst := by
  unfold next
  split <;> rfl

theorem word_nextNonce (c : Counters) : word c.nextNonce.nonce = word (c.nonce + 1) :=
  word_word _

theorem Advanced.next (advanced : g.Advanced made bursts h) :
    g.Advanced (made + 1) bursts h.next.1 := by
  cases kind : h.honest with
  | true =>
    rw [next_of_honest kind]
    -- The nonce stands still, but samples do not carry it.
    have sample : g.honest = true := advanced.honest.symm.trans kind
    exact { advanced with nonce := fun filler => by rw [sample] at filler; cases filler }
  | false =>
    rw [next_of_filler kind]
    refine ⟨advanced.honest, advanced.size, advanced.runId, advanced.burst, fun filler => ?_⟩
    have grown := word_add_congr (advanced.nonce filler) 1
    rw [Int.add_assoc] at grown
    exact (word_nextNonce h.counters).trans grown

theorem Advanced.payload_of_honest (advanced : g.Advanced made bursts h) (honest : g.honest = true) :
    h.next.2.payload = build (sampleTag (g.counters.burst + bursts)) g.counters.runId g.size := by
  rw [next_of_honest (advanced.honest.trans honest), ← advanced.burst, advanced.runId,
    advanced.size]

theorem Advanced.payload_of_filler (advanced : g.Advanced made bursts h) (filler : g.honest = false) :
    h.next.2.payload = build fillerTag (g.counters.nonce + made + 1) g.size := by
  have grown := word_add_congr (advanced.nonce filler) 1
  rw [next_of_filler (advanced.honest.trans filler)]
  simp only [build, word_nextNonce, grown, advanced.size]

theorem Advanced.payload (advanced : g.Advanced made bursts h) {rate : Nat}
    (current : made / rate = bursts) : h.next.2.payload = g.payloadAt rate made := by
  unfold payloadAt
  cases kind : g.honest with
  | true => rw [advanced.payload_of_honest kind, if_pos rfl, current]
  | false => rw [advanced.payload_of_filler kind, if_neg Bool.false_ne_true]

theorem Advanced.advanceBurst (advanced : g.Advanced made bursts h) :
    g.Advanced made (bursts + 1) h.advanceBurst := by
  refine { advanced with burst := ?_ }
  have := advanced.burst
  simp only [Generator.advanceBurst, Counters.advanceBurst]
  omega

end Generator

end BurstLoad.Payload
