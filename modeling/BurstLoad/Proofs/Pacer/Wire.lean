import BurstLoad.Pacer.Run
import BurstLoad.Proofs.Link
import BurstLoad.Proofs.Payload

/-! What a run of bursts puts on a framed connection. The transactions counted so far tell how many
bursts are over, how far the generator has come, and which frames the connection has taken; each step
of the run keeps these together. -/

set_option autoImplicit false

namespace BurstLoad

open Payload (Generator)

/-- So many transactions were made and so many frames taken, in the bursts that are over by now. -/
structure Pacer.Ledger (g : Generator) (rate : Nat) (p : Pacer) (l : Link) (made onWire : Nat) :
    Prop where
  pace : p.rate = rate
  generator : g.Advanced made p.stats.bursts p.generator
  carries : l.Carries (g.payloadAt rate) onWire

theorem Pacer.eq_of_ofRate? {rate historySize : Int} {nominal : Span} {g : Generator} {p : Pacer}
    (built : ofRate? rate nominal historySize g = .ok p) :
    ∃ pace : Nat, (pace : Int) = rate ∧
      { rate := pace, nominal, historySize, generator := g } = p := by
  unfold ofRate? at built
  split at built
  · cases built
  · next nonneg =>
    cases built
    exact ⟨rate.toNat, Int.toNat_of_nonneg (by omega), rfl⟩

theorem Pacer.fresh_of_ofRate? {rate : Nat} {historySize : Int} {nominal : Span} {g : Generator}
    {p : Pacer} (built : ofRate? rate nominal historySize g = .ok p) :
    p.rate = rate ∧ p.nominal = nominal ∧ p.generator = g ∧ p.stats = {} := by
  obtain ⟨pace, same, rfl⟩ := eq_of_ofRate? built
  exact ⟨Int.ofNat_inj.mp same, rfl, rfl, rfl⟩

namespace Run

/-- A send is under way that will fail. -/
def IsFailing (r : Run) : Prop :=
  ∃ burst left flight due, r.phase = .inFlight burst left flight due ∧ flight.fault.isSome

/-- The invariant of a run that began with a generator: the books agree, and the place in the
current burst is the one that the counters tell. -/
def Upholds (g : Generator) (rate : Nat) (cut : Prop) (r : Run) : Prop :=
  ∃ link, r.carrier = .framed link ∧
    let done := r.pacer.stats.payloads
    match r.phase with
    | .looking | .resting _ =>
      r.pacer.Ledger g rate link done done ∧ done = rate * r.pacer.stats.bursts
    | .sending _ left =>
      r.pacer.Ledger g rate link done done ∧ left ≤ rate ∧
        done + left = rate * (r.pacer.stats.bursts + 1)
    | .inFlight _ left flight _ =>
      (r.pacer.Ledger g rate link (done + 1) (done + 1) ∨
          flight.fault.isSome ∧ r.pacer.Ledger g rate link (done + 1) done) ∧
        left < rate ∧ done + left + 1 = rate * (r.pacer.stats.bursts + 1)
    | .ended _ | .cancelled => link.CarriesAtEnd (g.payloadAt rate) done cut

variable {g : Generator} {rate : Nat} {cut : Prop} {r : Run}

theorem Upholds.start {p : Pacer} {link : Link} (pace : p.rate = rate) (begins : p.generator = g)
    (unused : p.stats = {}) (empty : link.Carries (g.payloadAt rate) 0) (stop : Bool)
    (maxBursts : Option Int) :
    (Run.start p (.framed link) stop maxBursts).1.Upholds g rate cut := by
  subst begins
  refine ⟨link, rfl, ?_⟩
  simp only [Run.start, unused]
  exact ⟨⟨pace, .refl _, empty⟩, rfl⟩

theorem Upholds.finish (upholds : r.Upholds g rate cut) (looking : r.phase = .looking) :
    r.finish.Upholds g rate cut := by
  obtain ⟨link, framed, facts⟩ := upholds
  rw [looking] at facts
  exact ⟨link, framed, .inl facts.1.carries⟩

theorem Upholds.openBurst (upholds : r.Upholds g rate cut) (looking : r.phase = .looking)
    (burst : Burst) :
    ({ r with phase := .sending burst r.pacer.rate } : Run).Upholds g rate cut := by
  obtain ⟨link, framed, facts⟩ := upholds
  rw [looking] at facts
  obtain ⟨ledger, done⟩ := facts
  refine ⟨link, framed, ledger, Nat.le_of_eq ledger.pace, ?_⟩
  dsimp only
  rw [ledger.pace, done, Nat.mul_succ]

/-- A whole burst is counted, and the next one is one later. -/
theorem Upholds.endBurst {burst : Burst} (upholds : r.Upholds g rate cut)
    (sent : r.phase = .sending burst 0) (now : Time) :
    (r.endBurst now burst).1.Upholds g rate cut := by
  obtain ⟨link, framed, facts⟩ := upholds
  rw [sent] at facts
  obtain ⟨ledger, -, done⟩ := facts
  have counted (observed : Burst) :
      (r.pacer.completeBurst observed).Ledger g rate link r.pacer.stats.payloads
        r.pacer.stats.payloads :=
    -- The number of bursts and the generator's counter grow together.
    ⟨ledger.pace, ledger.generator.advanceBurst, ledger.carries⟩
  unfold Run.endBurst
  split
  · exact ⟨link, framed, .inl ledger.carries⟩
  · dsimp only
    split
    · exact ⟨link, framed, .inl ledger.carries⟩
    · split
      · exact ⟨link, framed, .inl ledger.carries⟩
      · exact ⟨link, framed, counted _, done⟩

/-- In a burst that is not over, the transactions made so far tell the number of the burst. -/
theorem div_rate {done left bursts : Nat} (some : left + 1 ≤ rate)
    (total : done + (left + 1) = rate * (bursts + 1)) : done / rate = bursts := by
  rw [Nat.mul_succ] at total
  refine Nat.div_eq_of_lt_le ?_ ?_
  · rw [Nat.mul_comm]
    omega
  · rw [Nat.mul_comm, Nat.mul_succ]
    omega

theorem Upholds.launch {burst : Burst} {left : Nat} (upholds : r.Upholds g rate cut)
    (short : g.size < Bytes.wordCount) (sending : r.phase = .sending burst (left + 1)) (now : Time) :
    (r.launch now burst left).1.Upholds g rate cut := by
  obtain ⟨link, framed, facts⟩ := upholds
  rw [sending] at facts
  obtain ⟨ledger, some, total⟩ := facts
  -- The place in the row tells the burst, so what is made now is the row's next payload.
  have made := ledger.generator.payload (div_rate some total)
  have next := ledger.generator.next
  have effect := ledger.carries.launch now (by rw [g.length_payloadAt]; exact short)
  unfold Run.launch
  simp only [framed, made]
  refine ⟨(link.launch now (g.payloadAt rate r.pacer.stats.payloads)).1, rfl, ?_, some, total⟩
  obtain sent | ⟨fault, same⟩ := effect
  · exact .inl ⟨ledger.pace, next, sent⟩
  · exact .inr ⟨fault, ledger.pace, next, same⟩

theorem land_framed (link : Link) (now : Time) (flight : Flight) :
    (Carrier.framed link).land now flight = (.framed (link.land flight).1, flight.fault) := by
  rw [← link.fault_land flight]
  rfl

theorem Upholds.land {burst : Burst} {left : Nat} {flight : Flight} {due : Time}
    (upholds : r.Upholds g rate cut) (failing : r.IsFailing → cut)
    (underWay : r.phase = .inFlight burst left flight due) (now : Time) :
    (r.land now burst left flight).1.Upholds g rate cut := by
  obtain ⟨link, framed, facts⟩ := upholds
  rw [underWay] at facts
  obtain ⟨books, some, total⟩ := facts
  unfold Run.land
  rw [framed, land_framed]
  cases fault : flight.fault with
  | none =>
    obtain ledger | ⟨broken, -⟩ := books
    · refine ⟨_, rfl, ⟨ledger.pace, ledger.generator, ledger.carries.land flight⟩,
        Nat.le_of_lt some, ?_⟩
      simp only [Pacer.countPayload]
      omega
    · rw [fault] at broken
      cases broken
  | some reason =>
    -- The frame may be on the connection all the same; then it is the one that was not counted.
    have atEnd : (link.land flight).1.CarriesAtEnd (g.payloadAt rate) r.pacer.stats.payloads cut := by
      obtain ledger | ⟨-, ledger⟩ := books
      · exact .inr ⟨failing ⟨_, _, _, _, underWay, by rw [fault]; rfl⟩, ledger.carries.land flight⟩
      · exact .inl (ledger.carries.land flight)
    dsimp only
    split <;> exact ⟨_, rfl, atEnd⟩

/-- Each step of a run keeps the invariant. -/
theorem Upholds.act (upholds : r.Upholds g rate cut) (short : g.size < Bytes.wordCount)
    (failing : r.IsFailing → cut) (now : Time) : (r.act now).1.Upholds g rate cut := by
  unfold Run.act
  split
  · next looking =>
    split
    · exact upholds.finish looking
    · exact upholds.openBurst looking _
  · next sent => exact upholds.endBurst sent now
  · next sending => exact upholds.launch short sending now
  · next underWay => exact upholds.land failing underWay now
  · next resting =>
    obtain ⟨link, framed, facts⟩ := upholds
    rw [resting] at facts
    exact ⟨link, framed, facts⟩
  · exact upholds
  · exact upholds

theorem Upholds.mono {more : Prop} (upholds : r.Upholds g rate cut) (weaker : cut → more) :
    r.Upholds g rate more := by
  obtain ⟨link, framed, facts⟩ := upholds
  refine ⟨link, framed, ?_⟩
  cases phase : r.phase <;> rw [phase] at facts
  case looking | resting | sending | inFlight => exact facts
  case ended | cancelled => exact facts.imp_right (And.imp_left weaker)

/-- A run that is over, or is cut off where it stands, leaves its connection with what was counted,
or with one frame more if that frame's send was cut short. -/
theorem Upholds.atEnd (upholds : r.Upholds g rate cut)
    (underWay : ∀ burst left flight due, r.phase = .inFlight burst left flight due → cut) :
    ∃ link, r.carrier = .framed link ∧
      link.CarriesAtEnd (g.payloadAt rate) r.pacer.stats.payloads cut := by
  obtain ⟨link, framed, facts⟩ := upholds
  refine ⟨link, framed, ?_⟩
  cases phase : r.phase <;> rw [phase] at facts
  case looking | resting | sending => exact .inl facts.1.carries
  case inFlight burst left flight due =>
    obtain ⟨ledger | ⟨-, ledger⟩, -⟩ := facts
    · exact .inr ⟨underWay burst left flight due phase, ledger.carries⟩
    · exact .inl ledger.carries
  case ended | cancelled => exact facts

end Run

end BurstLoad
