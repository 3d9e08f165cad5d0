import BurstLoad.Simulation

/-! Which states a machine comes to when it acts and takes inputs at any moments and in any order.
Simulated time only narrows this down, so what holds of all these states holds at every point of
every simulation. -/

set_option autoImplicit false

namespace BurstLoad

variable {σ ι : Type}

namespace Machine

/-- The states that a machine comes to from a state. -/
inductive Reaches (m : Machine σ ι) (s : σ) : σ → Prop where
  | start : Reaches m s s
  | act {t : σ} (now : Time) : Reaches m s t → Reaches m s (m.act now t).1
  | take {t : σ} (now : Time) (input : ι) : Reaches m s t → Reaches m s (m.take now input t).1

namespace Reaches

variable {m : Machine σ ι} {s t u : σ}

theorem trans (first : m.Reaches s t) (second : m.Reaches t u) : m.Reaches s u := by
  induction second with
  | start => exact first
  | act now _ ih => exact ih.act now
  | take now input _ ih => exact ih.take now input

/-- What acts and inputs keep holds of every state that a machine comes to. -/
theorem invariant {P : σ → Prop} (reached : m.Reaches s t) (start : P s)
    (act : ∀ now u, P u → P (m.act now u).1)
    (take : ∀ now input u, P u → P (m.take now input u).1) : P t := by
  induction reached with
  | start => exact start
  | act now _ ih => exact act now _ ih
  | take now input _ ih => exact take now input _ ih

end Reaches

/-- The state after some inputs, one after the other. -/
def takeAll (m : Machine σ ι) (now : Time) (inputs : List ι) (s : σ) : σ :=
  inputs.foldl (fun t input => (m.take now input t).1) s

/-- The states that a machine comes to from a state if inputs, several of one instant together, only
come to it while it does not go on at once. -/
inductive Unfolds (m : Machine σ ι) (s : σ) : σ → Prop where
  | start : Unfolds m s s
  | act {t : σ} (now : Time) : Unfolds m s t → Unfolds m s (m.act now t).1
  | take {t : σ} (now : Time) (inputs : List ι) :
    Unfolds m s t → m.wake t ≠ .running → Unfolds m s (m.takeAll now inputs t)

namespace Unfolds

variable {m : Machine σ ι} {s t u : σ}

theorem trans (first : m.Unfolds s t) (second : m.Unfolds t u) : m.Unfolds s u := by
  induction second with
  | start => exact first
  | act now _ ih => exact ih.act now
  | take now inputs _ waits ih => exact ih.take now inputs waits

end Unfolds

end Machine

namespace Simulation

variable (m : Machine σ ι)

theorem takenAll_reaches (now : Time) (sim : Simulation σ ι) (inputs : List (Time × ι)) :
    m.Reaches sim.state (sim.takenAll m now inputs).state := by
  induction inputs generalizing sim with
  | nil => exact .start
  | cons first rest ih =>
    rw [takenAll]
    split
    · exact (Machine.Reaches.start.take now first.2).trans (ih (sim.taken m now first.2 rest))
    · exact .start

/-- What one step is: the machine acts, when it wakes and no input comes first, or it takes the inputs
of the next instant. -/
theorem step?_cases {limit : Time} {sim next : Simulation σ ι}
    (step : sim.step? m limit = some next) :
    (∃ time, next = sim.acted m time ∧
      (m.wake sim.state = .running ∧ time = sim.now ∨
        m.wake sim.state = .waking time ∧ time ≤ limit ∧
          ∀ first ∈ sim.inputs.head?, ¬ first.1 ≤ sim.now.later time)) ∨
      m.wake sim.state ≠ .running ∧ ∃ first rest, sim.inputs = first :: rest ∧ first.1 ≤ limit ∧
        (∀ time, m.wake sim.state = .waking time → first.1 ≤ sim.now.later time) ∧
        next = sim.takenAll m (sim.now.later first.1) sim.inputs := by
  unfold step? at step
  cases wake : m.wake sim.state with
  | running =>
    simp only [wake, Option.some.injEq] at step
    exact .inl ⟨sim.now, step.symm, .inl ⟨rfl, rfl⟩⟩
  | idle =>
    cases coming : sim.inputs with
    | nil => simp [wake, coming] at step
    | cons first rest =>
      simp only [wake, coming, Option.ite_none_right_eq_some, Option.some.injEq] at step
      exact .inr ⟨by simp, first, rest, rfl, step.1, by simp, step.2.symm⟩
  | waking time =>
    cases coming : sim.inputs with
    | nil =>
      simp only [wake, coming, Option.ite_none_right_eq_some, Option.some.injEq] at step
      exact .inl ⟨time, step.2.symm, .inr ⟨rfl, step.1, by simp⟩⟩
    | cons first rest =>
      simp only [wake, coming] at step
      split at step
      · next early =>
        simp only [Option.ite_none_right_eq_some, Option.some.injEq] at step
        refine .inr ⟨by simp, first, rest, rfl, step.1, ?_, step.2.symm⟩
        intro w same
        cases same
        exact early
      · next late =>
        simp only [Option.ite_none_right_eq_some, Option.some.injEq] at step
        exact .inl ⟨time, step.2.symm, .inr ⟨rfl, step.1, by simpa using late⟩⟩

theorem step?_reaches {limit : Time} {sim next : Simulation σ ι}
    (step : sim.step? m limit = some next) : m.Reaches sim.state next.state := by
  obtain ⟨time, rfl, -⟩ | ⟨-, first, rest, -, -, -, rfl⟩ := step?_cases m step
  · exact Machine.Reaches.start.act _
  · exact takenAll_reaches m _ sim sim.inputs

/-- What each step that a run takes keeps holds at its end. -/
theorem run_keeps {P : Simulation σ ι → Prop} {limit : Time} {final : σ → Bool} {sim : Simulation σ ι}
    (start : P sim)
    (keeps : ∀ now next, P now → final now.state = false → now.step? m limit = some next → P next)
    (fuel : Nat) : P (sim.run m limit final fuel) := by
  induction fuel generalizing sim with
  | zero => exact start
  | succ fuel ih =>
    rw [run]
    split
    · exact start
    · next unfinished =>
      cases step : sim.step? m limit with
      | none => exact start
      | some next => exact ih (keeps sim next start (Bool.eq_false_iff.mpr unfinished) step)

/-- What each step keeps holds at the end of a run. -/
theorem run_invariant {P : Simulation σ ι → Prop} {limit : Time} {sim : Simulation σ ι} (start : P sim)
    (keeps : ∀ now next, P now → now.step? m limit = some next → P next) (final : σ → Bool)
    (fuel : Nat) : P (sim.run m limit final fuel) :=
  run_keeps m start (fun now next here _ step => keeps now next here step) fuel

theorem run_reaches {s : σ} {sim : Simulation σ ι} (reached : m.Reaches s sim.state) (limit : Time)
    (final : σ → Bool) (fuel : Nat) : m.Reaches s (sim.run m limit final fuel).state :=
  run_invariant m (P := fun sim => m.Reaches s sim.state) reached
    (fun _ _ here step => here.trans (step?_reaches m step)) final fuel

theorem drive_reaches (start : σ × List Notice) (now : Time) (inputs : List (Time × ι))
    (limit : Time) (final : σ → Bool) :
    m.Reaches start.1 (drive m start now inputs limit final).state := by
  unfold drive
  refine run_reaches m ?_ limit final plenty
  exact .start

theorem takenAll_state (now : Time) (sim : Simulation σ ι) (inputs : List (Time × ι)) :
    (sim.takenAll m now inputs).state =
      m.takeAll now ((inputs.takeWhile fun input => input.1 ≤ now).map Prod.snd) sim.state := by
  induction inputs generalizing sim with
  | nil => rfl
  | cons first rest ih =>
    rw [takenAll]
    by_cases due : first.1 ≤ now
    · simp only [due, if_true, ih, List.takeWhile_cons, decide_true, List.map_cons]
      rfl
    · simp [due, Machine.takeAll]

theorem takenAll_inputs_subset {now : Time} {sim : Simulation σ ι} {inputs : List (Time × ι)}
    (own : sim.inputs = inputs) : (sim.takenAll m now inputs).inputs ⊆ inputs := by
  induction inputs generalizing sim with
  | nil => rw [takenAll, own]; exact List.Subset.refl _
  | cons first rest ih =>
    rw [takenAll]
    split
    · exact List.subset_cons_of_subset first (ih rfl)
    · rw [own]; exact List.Subset.refl _

theorem step?_unfolds {limit : Time} {sim next : Simulation σ ι}
    (step : sim.step? m limit = some next) : m.Unfolds sim.state next.state := by
  obtain ⟨time, rfl, -⟩ | ⟨waits, first, rest, -, -, -, rfl⟩ := step?_cases m step
  · exact Machine.Unfolds.start.act _
  · rw [takenAll_state]
    exact Machine.Unfolds.start.take _ _ waits

theorem run_unfolds {s : σ} {sim : Simulation σ ι} (unfolded : m.Unfolds s sim.state)
    (limit : Time) (final : σ → Bool) (fuel : Nat) :
    m.Unfolds s (sim.run m limit final fuel).state :=
  run_invariant m (P := fun sim => m.Unfolds s sim.state) unfolded
    (fun _ _ here step => here.trans (step?_unfolds m step)) final fuel

end Simulation

end BurstLoad
