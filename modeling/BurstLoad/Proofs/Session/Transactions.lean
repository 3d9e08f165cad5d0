import BurstLoad.Proofs.Session.Stalled

/-! The transactions of a run. Settled settings and the counters at the start fix every byte that a
run puts on the connection to its target: its faults, its stop requests and its cancellations only
tell how many of the transactions go out. -/

set_option autoImplicit false

namespace BurstLoad.Session

open Payload (Generator header? headerSize fillerTag sampleTagCount)

/-- A transaction at a place of a run, with the run's settings and its counters at the start. -/
structure IsTransaction (settings : Settings) (runId nonce burst : Int) (place : Nat) (p : Bytes) :
    Prop where
  length : (p.length : Int) = settings.size
  sample : settings.honest = true →
    header? p =
      some (((burst + place / settings.rate) % sampleTagCount).toNat, runId.toNat)
  filler : settings.honest = false →
    header? p = some (fillerTag, ((nonce + place + 1) % Bytes.wordCount).toNat)
  zeros : ∀ b ∈ p.drop headerSize, b = 0

/-- A row of transactions is what a session's connection took. They are those that were counted, or
one more only while its send is under way or if `cut` holds: that send failed or was cut off. -/
structure HasSent (settings : Settings) (runId nonce burst : Int) (cut : Prop)
    (payloads : List Bytes) (s : Session) : Prop where
  frames : ∃ frames, payloads.mapM (Frame.encode Frame.maxLength) = .ok frames ∧
    s.written = frames.flatten
  counted : payloads.length = s.currentPacer.stats.payloads ∨
    payloads.length = s.currentPacer.stats.payloads + 1 ∧ (s.flight?.isSome ∨ cut)
  transactions : ∀ place p, payloads[place]? = some p →
    IsTransaction settings runId nonce burst place p
  ended : s.IsFailing → ∀ later, machine.Reaches s later → later.written = s.written

/-- What a session begins with. -/
structure IsBuiltFor (settings : Settings) (counters : Payload.Counters) (g : Generator)
    (rate : Nat) (s : Session) : Prop where
  honest : g.honest = settings.honest
  size : (g.size : Int) = settings.size
  begins : g.counters = counters
  pace : (rate : Int) = settings.rate
  unused : IsUnused g rate s.pacer
  fresh : s.stage = .fresh
  unopened : s.closedLink = none

theorem eq_of_ofSettings? {settings : Settings} {counters : Payload.Counters}
    {receiver : Receiver} {network : Network} {s : Session}
    (built : ofSettings? settings counters receiver network = .ok s) :
    ∃ g p, Generator.ofSize? settings.honest settings.size counters = .ok g ∧
      Pacer.ofRate? settings.rate (.ofValue settings.burstDuration) 0 g = .ok p ∧
      s = {
        settings
        pacer := p
        gate := ⟨.ofValue settings.probeDelay, []⟩
        inbox := { host := settings.bindHost, port := settings.port, receiver }
        network } := by
  unfold ofSettings? at built
  cases sized : Generator.ofSize? settings.honest settings.size counters with
  | error cause =>
    rw [sized] at built
    cases built
  | ok g =>
    rw [sized] at built
    dsimp only [bind, Except.bind] at built
    -- The seconds of the delays are only asked whether there are any.
    split at built
    · cases built
    · split at built
      · cases built
      · split at built
        · cases built
        · next p paced =>
          cases built
          exact ⟨g, p, rfl, paced, rfl⟩

theorem isBuiltFor_of_ofSettings? {settings : Settings} {counters : Payload.Counters}
    {receiver : Receiver} {network : Network} {s : Session}
    (built : ofSettings? settings counters receiver network = .ok s) :
    ∃ g rate, IsBuiltFor settings counters g rate s := by
  obtain ⟨g, p, sized, paced, rfl⟩ := eq_of_ofSettings? built
  obtain ⟨honest, size, begins⟩ := Generator.eq_of_ofSize? sized
  obtain ⟨rate, pace, rfl⟩ := Pacer.eq_of_ofRate? paced
  exact ⟨g, rate, honest, size, begins, pace, ⟨rfl, rfl, rfl⟩, rfl, rfl⟩

theorem isTransaction_payloadAt {settings : Settings} {runId nonce burst : Int}
    {counters : Payload.Counters} {g : Generator} {rate : Nat} {s : Session}
    (begins : Payload.Counters.ofInitial? runId nonce burst = some counters)
    (built : IsBuiltFor settings counters g rate s) (place : Nat) :
    IsTransaction settings runId nonce burst place (g.payloadAt rate place) := by
  obtain ⟨⟨low, high⟩, same⟩ := Payload.ofInitial?_eq_some_iff.mp begins
  have counters := built.begins.trans same.symm
  refine ⟨?_, fun sample => ?_, fun filler => ?_, ?_⟩
  · rw [g.length_payloadAt]
    exact built.size
  · rw [Generator.header?_payloadAt_of_honest (built.honest.trans sample), counters,
      Payload.word_eq_toNat low high, Int.natCast_ediv, built.pace]
  · rw [Generator.header?_payloadAt_of_filler (built.honest.trans filler), counters,
      Payload.word_add_congr (Payload.word_add_congr (Payload.word_word nonce) place) 1]
    rfl
  · intro b member
    rw [Generator.drop_payloadAt] at member
    exact List.eq_of_mem_replicate member

/-- Simulated sessions only come to what a session reaches. -/
theorem simulate_reaches (s : Session) (inputs : List (Time × Input)) (limit : Time)
    (final : Session → Bool) :
    machine.Reaches s (s.simulate inputs limit final).1.state := by
  have driven := Simulation.drive_reaches machine (s, []) 0 inputs limit final
  unfold simulate
  dsimp only
  split
  · exact driven
  · refine Simulation.run_reaches machine ?_ _ isOver 8
    exact driven

/-- What every run puts on its connection, at every point and whatever comes to it. -/
theorem written_transactions {d : Settings.Draft} {settings : Settings} {runId nonce burst : Int}
    {counters : Payload.Counters} {receiver : Receiver} {network : Network} {s t : Session}
    {stop : Bool} {maxBursts : Option Int}
    (settled : Settings.settle d = .ok settings)
    (begins : Payload.Counters.ofInitial? runId nonce burst = some counters)
    (built : ofSettings? settings counters receiver network = .ok s)
    (reached : machine.Reaches { s with stop, maxBursts } t) :
    ∃ payloads, t.HasSent settings runId nonce burst (CutShort { s with stop, maxBursts } t)
      payloads := by
  obtain ⟨g, rate, start⟩ := isBuiltFor_of_ofSettings? built
  have short : g.size < Bytes.wordCount := by
    have bounds := Settings.size_of_settle settled
    have size := start.size
    unfold Settings.maxSize at bounds
    unfold Bytes.wordCount
    omega
  have upholds := upholds_of_reaches (s := { s with stop, maxBursts }) start.fresh start.unused
    start.unopened short reached
  obtain ⟨count, frames, counted⟩ := taken_of_upholds upholds
  refine ⟨(List.range count).map (g.payloadAt rate), ⟨_, Frame.mapM_encode_maxLength ?_, ?_⟩, ?_,
    ?_, ?_⟩
  · intro p member
    obtain ⟨place, -, rfl⟩ := List.mem_map.mp member
    rw [g.length_payloadAt]
    exact short
  · rw [written, frames, List.map_map]
    rfl
  · rw [List.length_map, List.length_range]
    exact counted
  · intro place p here
    obtain ⟨inRange, same⟩ := List.getElem?_eq_some_iff.mp here
    rw [List.getElem_map, List.getElem_range] at same
    subst same
    exact isTransaction_payloadAt begins start place
  · exact fun failing later => written_of_isFailing upholds failing

/-- Two fillers of nine bytes in each burst. -/
def twoFillers : Settings where
  target := ⟨"10.0.0.1", 9000⟩
  size := 9
  rate := 2
  port := 9001
  nodes := []
  isLocal := false
  honest := false
  burstDuration := .int 1000
  probeDelay := .int 10

/-- Every write but the first takes long. -/
def slowNetwork : Network where
  plan _ _ := { result := .ok ⟨fun n => { delay := 10 * n }, none⟩ }

/-- The nonce begins at its greatest value. The second filler is cut off on its way, when it is on the
connection but was not counted. -/
theorem written_two_fillers : ∃ s t payloads,
    Settings.settle twoFillers.toDraft = .ok twoFillers ∧
      ofSettings? twoFillers ⟨7, Bytes.maxWord, 0⟩ { verbose := false } slowNetwork = .ok s ∧
      ({ s with stop := false, maxBursts := some 1 }.simulate [] 5 isOver).1.state = t ∧
      t.written =
        [0, 0, 0, 9, 255, 255, 255, 255, 0, 0, 0, 0, 0,
          0, 0, 0, 9, 255, 255, 255, 255, 0, 0, 0, 1, 0] ∧
      t.currentPacer.stats.payloads = 1 ∧
      t.HasSent twoFillers 7 Bytes.maxWord 0
        (CutShort { s with stop := false, maxBursts := some 1 } t) payloads := by
  have seconds (n : Int) (small : Decimal.roundTo53 n.natAbs < Nat.pow 2 1024) :
      ∃ x, Settings.seconds (.int n) = .ok x := by
    unfold Settings.seconds Decimal.ofInt?
    dsimp only
    rw [if_pos small]
    exact ⟨_, rfl⟩
  obtain ⟨delay, delays⟩ := seconds 10 (by decide +kernel)
  obtain ⟨duration, lasts⟩ := seconds 1000 (by decide +kernel)
  let s : Session := {
    settings := twoFillers
    pacer := {
      rate := 2
      nominal := .ms 1000
      generator := ⟨false, 9, ⟨7, Bytes.maxWord, 0⟩, by decide⟩ }
    gate := ⟨.ms 10, []⟩
    inbox := { host := "0.0.0.0", port := 9001, receiver := { verbose := false } }
    network := slowNetwork }
  have settled : Settings.settle twoFillers.toDraft = .ok twoFillers := rfl
  have begins : Payload.Counters.ofInitial? 7 Bytes.maxWord 0 = some ⟨7, Bytes.maxWord, 0⟩ := rfl
  have built :
      ofSettings? twoFillers ⟨7, Bytes.maxWord, 0⟩ { verbose := false } slowNetwork = .ok s := by
    unfold ofSettings?
    rw [show twoFillers.probeDelay = .int 10 from rfl,
      show twoFillers.burstDuration = .int 1000 from rfl, delays, lasts]
    rfl
  have reached := simulate_reaches { s with stop := false, maxBursts := some 1 } [] 5 isOver
  obtain ⟨payloads, sent⟩ := written_transactions settled begins built reached
  exact ⟨s, _, payloads, settled, built, rfl, by decide +kernel, by decide +kernel, sent⟩

end BurstLoad.Session
