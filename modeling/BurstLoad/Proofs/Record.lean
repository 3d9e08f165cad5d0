import BurstLoad.Proofs.Simulation

/-! What happens to a machine, one thing after the other. It can be followed from any state on, and a machine
can keep a record of it beside its state: each act, with the state on which it was done, and each input. But
for its record such a machine does what it does without one. -/

set_option autoImplicit false

namespace BurstLoad

variable {σ ι : Type}

namespace Machine

/-- One thing that happens to a machine at a moment. -/
inductive Event (ι : Type) where
  | act (now : Time)
  | take (now : Time) (input : ι)

def happen (m : Machine σ ι) (event : Event ι) (s : σ) : σ × List Notice :=
  match event with
  | .act now => m.act now s
  | .take now input => m.take now input s

/-- What becomes of a machine to which some things happen, one after the other, and what it says. -/
def follow (m : Machine σ ι) : List (Event ι) → σ → σ × List Notice
  | [], s => (s, [])
  | event :: rest, s =>
    let (s, notices) := m.happen event s
    let (s, more) := m.follow rest s
    (s, notices ++ more)

theorem follow_cons (m : Machine σ ι) (event : Event ι) (rest : List (Event ι)) (s : σ) :
    m.follow (event :: rest) s = ((m.follow rest (m.happen event s).1).1,
      (m.happen event s).2 ++ (m.follow rest (m.happen event s).1).2) :=
  rfl

inductive Happening (σ ι : Type) where
  | acted (now : Time) (state : σ)
  | took (now : Time) (input : ι)

abbrev Record (σ ι : Type) := List (Happening σ ι)

/-- The machine that keeps a record beside its state. -/
def recording (m : Machine σ ι) : Machine (σ × Record σ ι) ι where
  wake s := m.wake s.1
  act now s :=
    let (state, notices) := m.act now s.1
    ((state, s.2 ++ [.acted now s.1]), notices)
  take now input s :=
    let (state, notices) := m.take now input s.1
    ((state, s.2 ++ [.took now input]), notices)

theorem takeAll_recording (m : Machine σ ι) (now : Time) (inputs : List ι) (s : σ × Record σ ι) :
    m.recording.takeAll now inputs s = (m.takeAll now inputs s.1, s.2 ++ inputs.map (.took now)) := by
  unfold takeAll
  induction inputs generalizing s with
  | nil => simp
  | cons input rest ih =>
    rw [List.foldl_cons, ih]
    simp [recording]

end Machine

namespace Simulation

/-- A simulation without the record that its machine keeps. -/
def unrecorded (sim : Simulation (σ × Machine.Record σ ι) ι) : Simulation σ ι :=
  ⟨sim.now, sim.state.1, sim.inputs, sim.journal⟩

variable (m : Machine σ ι)

theorem takenAll_unrecorded (now : Time) (sim : Simulation (σ × Machine.Record σ ι) ι)
    (inputs : List (Time × ι)) :
    (sim.takenAll m.recording now inputs).unrecorded = sim.unrecorded.takenAll m now inputs := by
  induction inputs generalizing sim with
  | nil => rfl
  | cons first rest ih =>
    rw [takenAll, takenAll]
    split
    · exact ih (sim.taken m.recording now first.2 rest)
    · rfl

theorem step?_unrecorded (limit : Time) (sim : Simulation (σ × Machine.Record σ ι) ι) :
    (sim.step? m.recording limit).map unrecorded = sim.unrecorded.step? m limit := by
  unfold step?
  rw [show m.recording.wake sim.state = m.wake sim.unrecorded.state from rfl,
    show sim.unrecorded.inputs = sim.inputs from rfl]
  cases m.wake sim.unrecorded.state with
  | running => rfl
  | idle =>
    cases sim.inputs with
    | nil => rfl
    | cons first rest =>
      dsimp only
      split
      · exact congrArg some (takenAll_unrecorded m _ sim _)
      · rfl
  | waking w =>
    cases sim.inputs with
    | nil =>
      dsimp only
      split <;> rfl
    | cons first rest =>
      dsimp only
      rw [show sim.unrecorded.now = sim.now from rfl]
      split
      · split
        · exact congrArg some (takenAll_unrecorded m _ sim _)
        · rfl
      · split <;> rfl

theorem run_unrecorded (limit : Time) (final : σ → Bool) (fuel : Nat)
    (sim : Simulation (σ × Machine.Record σ ι) ι) :
    (sim.run m.recording limit (fun s => final s.1) fuel).unrecorded =
      sim.unrecorded.run m limit final fuel := by
  induction fuel generalizing sim with
  | zero => rfl
  | succ fuel ih =>
    have step := step?_unrecorded m limit sim
    rw [run, run, show sim.unrecorded.state = sim.state.1 from rfl]
    split
    · rfl
    · cases next : sim.step? m.recording limit with
      | none =>
        rw [next] at step
        rw [← step]
        rfl
      | some next' =>
        rw [next] at step
        rw [← step]
        exact ih next'

/-- Recording does not change what happens. -/
theorem drive_unrecorded (start : σ × List Notice) (now : Time) (inputs : List (Time × ι))
    (limit : Time) (final : σ → Bool) :
    (drive m.recording ((start.1, []), start.2) now inputs limit fun s => final s.1).unrecorded =
      drive m start now inputs limit final := by
  unfold drive
  exact run_unrecorded m limit final plenty _

/-- What acts and inputs keep of a machine and its record holds at the end of a drive. Inputs come only
while the machine waits, and nothing comes once it is final. -/
theorem drive_recorded {P : σ → Machine.Record σ ι → Prop} {Q : ι → Prop} {s : σ} {final : σ → Bool}
    (start : P s [])
    (act : ∀ t record now, m.Unfolds s t → final t = false → P t record →
      P (m.act now t).1 (record ++ [.acted now t]))
    (take : ∀ t record now inputs, m.Unfolds s t → final t = false → P t record → m.wake t ≠ .running →
      (∀ input ∈ inputs, Q input) → P (m.takeAll now inputs t) (record ++ inputs.map (.took now)))
    (now : Time) {inputs : List (Time × ι)} (allowed : ∀ input ∈ inputs, Q input.2) (limit : Time) :
    let last := (drive m.recording ((s, []), []) now inputs limit fun s => final s.1).state
    P last.1 last.2 := by
  let Q' (sim : Simulation (σ × Machine.Record σ ι) ι) : Prop :=
    m.Unfolds s sim.state.1 ∧ (∀ input ∈ sim.inputs, Q input.2) ∧ P sim.state.1 sim.state.2
  have begun : Q' {
      now
      state := (s, [])
      inputs := inputs.mergeSort fun a b => decide (a.1 ≤ b.1)
      journal := Journal.record #[] now [] } :=
    ⟨.start, fun input member => allowed input (List.mem_mergeSort.mp member), start⟩
  refine (run_keeps m.recording begun (fun sim next here going step => ?_) plenty).2.2
  obtain ⟨unfolded, coming, here⟩ := here
  have further : m.Unfolds sim.state.1 next.state.1 := by
    have same := step?_unrecorded m limit sim
    rw [step] at same
    exact step?_unfolds m same.symm
  refine ⟨unfolded.trans further, ?_⟩
  obtain ⟨time, rfl, -⟩ | ⟨waits, first, rest, -, -, -, rfl⟩ := step?_cases m.recording step
  · exact ⟨coming, act _ _ _ unfolded going here⟩
  · refine ⟨fun input member => coming input (takenAll_inputs_subset m.recording rfl member), ?_⟩
    rw [takenAll_state, Machine.takeAll_recording]
    refine take _ _ _ _ unfolded going here waits fun input member => ?_
    obtain ⟨timed, taken, rfl⟩ := List.mem_map.mp member
    exact coming timed (List.takeWhile_subset _ taken)

end Simulation

end BurstLoad
