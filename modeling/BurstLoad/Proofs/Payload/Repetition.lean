import BurstLoad.Proofs.Correlation

/-! When a generator makes a transaction that it made before, in whatever order transactions are asked
for and bursts end. A filler comes again after `2^32` others and not sooner; the samples of one burst
are all the same, and their tag is never that of a filler. -/

set_option autoImplicit false

namespace BurstLoad.Payload.Generator

/-- How many transactions are asked for in a row of calls. -/
def asked : List Call → Nat
  | [] => 0
  | .next :: calls => asked calls + 1
  | .advanceBurst :: calls => asked calls

/-- How many bursts end in a row of calls. -/
def closed : List Call → Nat
  | [] => 0
  | .next :: calls => closed calls
  | .advanceBurst :: calls => closed calls + 1

/-- For each transaction that is asked for, how many bursts have ended by then, if so many had ended
before the first call. -/
def burstsBefore (ended : Nat) : List Call → List Nat
  | [] => []
  | .next :: calls => ended :: burstsBefore ended calls
  | .advanceBurst :: calls => burstsBefore (ended + 1) calls

/-- The transactions that are made in a row of calls. -/
def payloads (g : Generator) (calls : List Call) : List Bytes :=
  (g.made calls).map fun m => m.2.payload

/-- The generator after a row of calls. -/
def afterCalls (g : Generator) : List Call → Generator
  | [] => g
  | .next :: calls => g.next.1.afterCalls calls
  | .advanceBurst :: calls => g.advanceBurst.afterCalls calls

theorem length_made (g : Generator) (calls : List Call) :
    (g.made calls).length = asked calls := by
  induction calls generalizing g with
  | nil => rfl
  | cons call rest ih =>
    cases call with
    | next => exact congrArg (· + 1) (ih g.next.1)
    | advanceBurst => exact ih g.advanceBurst

theorem length_payloads (g : Generator) (calls : List Call) :
    (g.payloads calls).length = asked calls := by
  rw [payloads, List.length_map, length_made]

theorem length_burstsBefore (ended : Nat) (calls : List Call) :
    (burstsBefore ended calls).length = asked calls := by
  induction calls generalizing ended with
  | nil => rfl
  | cons call rest ih =>
    cases call with
    | next => exact congrArg (· + 1) (ih ended)
    | advanceBurst => exact ih (ended + 1)

variable {g h : Generator} {made bursts : Nat} {calls : List Call}

theorem Advanced.afterCalls (advanced : g.Advanced made bursts h) (calls : List Call) :
    g.Advanced (made + asked calls) (bursts + closed calls) (h.afterCalls calls) := by
  induction calls generalizing h made bursts with
  | nil => exact advanced
  | cons call rest ih =>
    cases call with
    | next =>
      rw [asked, Nat.add_comm _ 1, ← Nat.add_assoc]
      exact ih advanced.next
    | advanceBurst =>
      rw [closed, Nat.add_comm _ 1, ← Nat.add_assoc]
      exact ih advanced.advanceBurst

theorem advanced_afterCalls (g : Generator) (calls : List Call) :
    g.Advanced (asked calls) (closed calls) (g.afterCalls calls) := by
  have advanced := (Advanced.refl g).afterCalls calls
  rw [Nat.zero_add, Nat.zero_add] at advanced
  exact advanced

/-- What is made at a place is what a generator makes next that has made all before it, in the bursts
before it. -/
theorem Advanced.exists_made {place : Nat} {m : Counters × Emission}
    (advanced : g.Advanced made bursts h) (there : (h.made calls)[place]? = some m) :
    ∃ (ended : Nat) (u : Generator), (burstsBefore bursts calls)[place]? = some ended ∧
      g.Advanced (made + place) ended u ∧ m = (u.counters, u.next.2) := by
  induction calls generalizing h made bursts place with
  | nil => cases there
  | cons call rest ih =>
    cases call with
    | next =>
      cases place with
      | zero => exact ⟨bursts, h, rfl, advanced, (Option.some.inj there).symm⟩
      | succ place =>
        obtain ⟨ended, u, known, later, same⟩ := ih advanced.next there
        rw [Nat.add_assoc, Nat.add_comm 1] at later
        exact ⟨ended, u, known, later, same⟩
    | advanceBurst => exact ih advanced.advanceBurst there

theorem Advanced.exists_payload {place : Nat} {s : Bytes} (advanced : g.Advanced made bursts h)
    (there : (h.payloads calls)[place]? = some s) :
    ∃ (ended : Nat) (u : Generator), (burstsBefore bursts calls)[place]? = some ended ∧
      g.Advanced (made + place) ended u ∧ s = u.next.2.payload := by
  rw [payloads, List.getElem?_map, Option.map_eq_some_iff] at there
  obtain ⟨m, there, rfl⟩ := there
  obtain ⟨ended, u, known, later, rfl⟩ := advanced.exists_made there
  exact ⟨ended, u, known, later, rfl⟩

theorem payload_of_filler (filler : g.honest = false) {place : Nat} {s : Bytes}
    (there : (g.payloads calls)[place]? = some s) :
    s = build fillerTag (g.counters.nonce + place + 1) g.size := by
  obtain ⟨_, u, -, advanced, rfl⟩ := (Advanced.refl g).exists_payload there
  rw [Nat.zero_add] at advanced
  exact advanced.payload_of_filler filler

theorem payload_of_honest (honest : g.honest = true) {place ended : Nat} {s : Bytes}
    (known : (burstsBefore 0 calls)[place]? = some ended)
    (there : (g.payloads calls)[place]? = some s) :
    s = build (sampleTag (g.counters.burst + ended)) g.counters.runId g.size := by
  obtain ⟨bursts, u, known', advanced, rfl⟩ := (Advanced.refl g).exists_payload there
  rw [known, Option.some.injEq] at known'
  subst known'
  exact advanced.payload_of_honest honest

/-- A nonce that is written in one word. -/
def HasWordNonce (g : Generator) : Prop :=
  0 ≤ g.counters.nonce ∧ g.counters.nonce < (2 ^ 32 : Nat)

theorem hasWordNonce_next (word : g.HasWordNonce) : g.next.1.HasWordNonce := by
  unfold next
  split
  · exact word
  · have short := word_lt (g.counters.nonce + 1)
    unfold Bytes.wordCount at short
    exact ⟨Int.natCast_nonneg _, by simp only [Counters.nextNonce]; omega⟩

theorem hasWordNonce_afterCalls (word : g.HasWordNonce) (calls : List Call) :
    (g.afterCalls calls).HasWordNonce := by
  induction calls generalizing g with
  | nil => exact word
  | cons call rest ih =>
    cases call with
    | next => exact ih (hasWordNonce_next word)
    | advanceBurst => exact ih (g := g.advanceBurst) word

theorem nonce_afterCalls_of_honest (honest : g.honest = true) (calls : List Call) :
    (g.afterCalls calls).counters.nonce = g.counters.nonce := by
  induction calls generalizing g with
  | nil => rfl
  | cons call rest ih =>
    cases call with
    | next =>
      rw [afterCalls, next_of_honest honest]
      exact ih honest
    | advanceBurst => exact ih (g := g.advanceBurst) honest

/-- What the fillers of a row of calls are, and what becomes of the counters. -/
structure IsUnrepeated (g : Generator) (calls : List Call) : Prop where
  count : (g.payloads calls).length = asked calls
  repeats_iff : ∀ i j s t, i < j → (g.payloads calls)[i]? = some s →
    (g.payloads calls)[j]? = some t → (s = t ↔ 2 ^ 32 ∣ j - i)
  word : (g.afterCalls calls).HasWordNonce
  nonce : (g.afterCalls calls).counters.nonce =
    (g.counters.nonce + asked calls) % (2 ^ 32 : Nat)
  runId : (g.afterCalls calls).counters.runId = g.counters.runId
  burst : (g.afterCalls calls).counters.burst = g.counters.burst + closed calls
  next : (g.afterCalls calls).next.1.counters.runId = (g.afterCalls calls).counters.runId ∧
    (g.afterCalls calls).next.1.counters.burst = (g.afterCalls calls).counters.burst
  advanceBurst :
    (g.afterCalls calls).advanceBurst.counters.nonce = (g.afterCalls calls).counters.nonce

/-- What the samples of a row of calls are, and what becomes of the counters. -/
structure IsUniform (g : Generator) (calls : List Call) : Prop where
  count : (g.payloads calls).length = asked calls ∧ (burstsBefore 0 calls).length = asked calls
  same : ∀ (i j ended : Nat) (s t : Bytes), (burstsBefore 0 calls)[i]? = some ended →
    (burstsBefore 0 calls)[j]? = some ended → (g.payloads calls)[i]? = some s →
    (g.payloads calls)[j]? = some t → s = t
  tag : ∀ (i ended : Nat) (s : Bytes), (burstsBefore 0 calls)[i]? = some ended →
    (g.payloads calls)[i]? = some s → ∃ tag, header? s = some (tag, word g.counters.runId) ∧
      (tag : Int) = (g.counters.burst + ended) % (2 ^ 24 : Nat) ∧ tag ≠ fillerTag
  nonce : (g.afterCalls calls).counters.nonce = g.counters.nonce
  runId : (g.afterCalls calls).counters.runId = g.counters.runId
  burst : (g.afterCalls calls).counters.burst = g.counters.burst + closed calls
  next : (g.afterCalls calls).next.1 = g.afterCalls calls

theorem isUnrepeated_of_filler (filler : g.honest = false) (started : g.HasWordNonce)
    (calls : List Call) : g.IsUnrepeated calls where
  count := length_payloads g calls
  repeats_iff i j s t before first second := by
    rw [payload_of_filler filler first, payload_of_filler filler second,
      build_eq_build_iff g.size_ge g.size_ge]
    simp only [true_and, word_eq_iff]
    unfold Bytes.wordCount
    omega
  word := hasWordNonce_afterCalls started calls
  nonce := by
    have ⟨low, high⟩ := hasWordNonce_afterCalls started calls
    have counted := (advanced_afterCalls g calls).nonce filler
    rw [word_eq_iff] at counted
    unfold Bytes.wordCount at counted
    omega
  runId := (advanced_afterCalls g calls).runId
  burst := (advanced_afterCalls g calls).burst
  next := ⟨(Advanced.refl (g.afterCalls calls)).next.runId, burst_next _⟩
  advanceBurst := rfl

theorem isUniform_of_honest (honest : g.honest = true) (calls : List Call) :
    g.IsUniform calls where
  count := ⟨length_payloads g calls, length_burstsBefore 0 calls⟩
  same i j ended s t first second here there := by
    rw [payload_of_honest honest first here, payload_of_honest honest second there]
  tag i ended s known there := by
    obtain rfl := payload_of_honest honest known there
    refine ⟨_, header?_build _ _ _, ?_, word_sampleTag_ne _⟩
    rw [word_sampleTag]
    exact Int.toNat_of_nonneg (sampleTag_bounds _).1
  nonce := nonce_afterCalls_of_honest honest calls
  runId := (advanced_afterCalls g calls).runId
  burst := (advanced_afterCalls g calls).burst
  next := by rw [next_of_honest ((advanced_afterCalls g calls).honest.trans honest)]

/-- From counters that are accepted, with a size that holds a header, a generator of either kind can
be made. Its fillers are the same exactly at places `2^32` apart, and its samples within a burst. -/
theorem repeats_of_started {runId nonce burst size : Int}
    (word : 0 ≤ runId ∧ runId ≤ Bytes.maxWord) (enough : headerSize ≤ size) :
    ∃ c, Counters.ofInitial? runId nonce burst = some c ∧
      (∃ g, ofSize? false size c = .ok g ∧ ∀ calls, g.IsUnrepeated calls) ∧
      ∃ g, ofSize? true size c = .ok g ∧ ∀ calls, g.IsUniform calls := by
  let c : Counters := ⟨runId, Payload.word nonce, burst⟩
  have short := word_lt nonce
  unfold Bytes.wordCount at short
  have built (honest : Bool) : ∃ g, ofSize? honest size c = .ok g := by
    rw [ofSize?, dif_neg (Int.not_lt.mpr enough)]
    exact ⟨_, rfl⟩
  obtain ⟨fillers, filling⟩ := built false
  obtain ⟨samples, sampling⟩ := built true
  obtain ⟨filler, -, counters⟩ := eq_of_ofSize? filling
  obtain ⟨honest, -⟩ := eq_of_ofSize? sampling
  have started : fillers.HasWordNonce := by
    rw [HasWordNonce, counters]
    exact ⟨Int.natCast_nonneg _, by dsimp only [c]; omega⟩
  exact ⟨c, ofInitial?_eq_some_iff.mpr ⟨word, rfl⟩,
    ⟨fillers, filling, isUnrepeated_of_filler filler started⟩,
    samples, sampling, isUniform_of_honest honest⟩

/-- Around the greatest nonce, and around a count of bursts at which the tag starts again. -/
theorem repeats_at_turn :
    ∃ c, Counters.ofInitial? 7 (-1) 16777215 = some c ∧
      (∃ g, ofSize? false 8 c = .ok g ∧
        g.IsUnrepeated [.next, .advanceBurst, .next]) ∧
      ∃ g, ofSize? true 8 c = .ok g ∧ g.IsUniform [.next, .advanceBurst, .next] := by
  obtain ⟨c, started, ⟨fillers, filling, unrepeated⟩, samples, sampling, uniform⟩ :=
    repeats_of_started (show 0 ≤ (7 : Int) ∧ (7 : Int) ≤ Bytes.maxWord by decide)
      (show headerSize ≤ (8 : Int) by decide)
  exact ⟨c, started, ⟨fillers, filling, unrepeated _⟩, samples, sampling, uniform _⟩

end BurstLoad.Payload.Generator
