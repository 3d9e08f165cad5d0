import BurstLoad.Proofs.Simulation

/-! Machines in time. In a course a machine acts when it wakes, neither before nor after, and an
input comes at any moment up to that one; of an act and an input at one instant either may be first.
The history of a course holds the moments at which the machine acted, each with the state on which
it did. Every simulation follows a course. -/

set_option autoImplicit false

namespace BurstLoad

namespace Time

theorem le_later_left (s t : Time) : s ≤ s.later t := by
  unfold later
  grind

theorem le_later_right (s t : Time) : t ≤ s.later t := by
  unfold later
  grind

theorem later_comm (s t : Time) : s.later t = t.later s := by
  unfold later
  grind

theorem later_of_le {s t : Time} (le : s ≤ t) : s.later t = t :=
  if_pos le

theorem later_of_ge {s t : Time} (ge : t ≤ s) : s.later t = s := by
  unfold later
  grind

theorem later_le {s t due : Time} (first : s ≤ due) (second : t ≤ due) : s.later t ≤ due := by
  unfold later
  grind

theorem later_later {s t due : Time} (low : s ≤ t) (high : t ≤ s.later due) :
    t.later due = s.later due := by
  unfold later at high ⊢
  grind

end Time

/-- The moment at which something that wakes so acts, if nothing comes to it before. -/
def Wake.moment? (now : Time) : Wake → Option Time
  | .running => some now
  | .waking due => some (now.later due)
  | .idle => none

theorem Wake.le_of_moment? {w : Wake} {now due : Time} (wakes : w.moment? now = some due) :
    now ≤ due := by
  cases w with
  | running =>
    cases wakes
    exact Rat.le_refl
  | waking time =>
    cases wakes
    exact now.le_later_left time
  | idle => cases wakes

variable {σ ι : Type}

namespace Machine

/-- The moments at which a machine acted, each with the state on which it did. -/
abbrev History (σ : Type) := List (Time × σ)

/-- From a state at a moment a machine comes, with a history, to a state at a moment. -/
inductive Course (m : Machine σ ι) (began : Time) (s : σ) : History σ → Time → σ → Prop where
  | start : Course m began s [] began s
  | act {h : History σ} {now due : Time} {t : σ} :
    Course m began s h now t → (m.wake t).moment? now = some due →
      Course m began s (h ++ [(due, t)]) due (m.act due t).1
  | take {h : History σ} {now moment : Time} {t : σ} (input : ι) :
    Course m began s h now t → now ≤ moment →
      (∀ due, (m.wake t).moment? now = some due → moment ≤ due) →
      Course m began s h moment (m.take moment input t).1

/-- What a machine that is left to itself comes to with so many acts, and the history of these. -/
def alone (m : Machine σ ι) : Nat → Time → σ → History σ × Time × σ
  | 0, now, s => ([], now, s)
  | acts + 1, now, s =>
    match (m.wake s).moment? now with
    | none => ([], now, s)
    | some due =>
      let (h, last) := m.alone acts due (m.act due s).1
      ((due, s) :: h, last)

namespace Course

variable {m : Machine σ ι} {began now later : Time} {s t u : σ} {h more : History σ}

theorem append (first : m.Course began s h now t) (second : m.Course now t more later u) :
    m.Course began s (h ++ more) later u := by
  induction second with
  | start =>
    rw [List.append_nil]
    exact first
  | act _ wakes ih =>
    rw [← List.append_assoc]
    exact ih.act wakes
  | take input _ low high ih => exact ih.take input low high

/-- The clock does not go back, and it stands at or after all acts so far. -/
theorem le_now (course : m.Course began s h now t) :
    began ≤ now ∧ ∀ act ∈ h, began ≤ act.1 ∧ act.1 ≤ now := by
  induction course with
  | start => exact ⟨Rat.le_refl, by simp⟩
  | act _ wakes ih =>
    obtain ⟨start, past⟩ := ih
    have onward := Wake.le_of_moment? wakes
    refine ⟨Rat.le_trans start onward, fun act member => ?_⟩
    rw [List.mem_append, List.mem_singleton] at member
    obtain before | rfl := member
    · exact ⟨(past act before).1, Rat.le_trans (past act before).2 onward⟩
    · exact ⟨Rat.le_trans start onward, Rat.le_refl⟩
  | take _ _ low _ ih =>
    obtain ⟨start, past⟩ := ih
    exact ⟨Rat.le_trans start low, fun act member =>
      ⟨(past act member).1, Rat.le_trans (past act member).2 low⟩⟩

theorem sorted (course : m.Course began s h now t) :
    h.Pairwise fun before after => before.1 ≤ after.1 := by
  induction course with
  | start => exact .nil
  | act before wakes ih =>
    have past := before.le_now.2
    rw [List.pairwise_append]
    refine ⟨ih, List.pairwise_singleton _ _, fun act member other last => ?_⟩
    rw [List.mem_singleton] at last
    subst last
    exact Rat.le_trans (past act member).2 (Wake.le_of_moment? wakes)
  | take _ _ _ _ ih => exact ih

end Course

theorem alone_succ {m : Machine σ ι} {now due : Time} {s : σ}
    (wakes : (m.wake s).moment? now = some due) (acts : Nat) :
    (m.alone (acts + 1) now s).2 = (m.alone acts due (m.act due s).1).2 := by
  rw [alone, wakes]

theorem alone_course (m : Machine σ ι) (acts : Nat) (now : Time) (s : σ) :
    m.Course now s (m.alone acts now s).1 (m.alone acts now s).2.1 (m.alone acts now s).2.2 := by
  induction acts generalizing now s with
  | zero => exact .start
  | succ acts ih =>
    rw [alone]
    cases wakes : (m.wake s).moment? now with
    | none => exact .start
    | some due => exact (Course.start.act wakes).append (ih due (m.act due s).1)

end Machine

namespace Simulation

variable (m : Machine σ ι) {began : Time} {s : σ} {h : Machine.History σ}

/-- Inputs of one instant come one after the other, and the clock stands still. -/
theorem takenAll_course {now : Time} {sim : Simulation σ ι} (inputs : List (Time × ι))
    (course : m.Course began s h sim.now sim.state) (onward : sim.now ≤ now)
    (awake : ∀ due, (m.wake sim.state).moment? sim.now = some due → now ≤ due) :
    m.Course began s h (sim.takenAll m now inputs).now (sim.takenAll m now inputs).state := by
  induction inputs generalizing sim with
  | nil => exact course
  | cons first rest ih =>
    rw [takenAll]
    split
    · have next : m.Course began s h (sim.taken m now first.2 rest).now
          (sim.taken m now first.2 rest).state := course.take first.2 onward awake
      exact ih next Rat.le_refl fun due wakes => Wake.le_of_moment? wakes
    · exact course

theorem acted_course {time due : Time} {sim : Simulation σ ι}
    (course : m.Course began s h sim.now sim.state)
    (wakes : (m.wake sim.state).moment? sim.now = some due) (same : sim.now.later time = due) :
    m.Course began s (h ++ [(due, sim.state)]) (sim.acted m time).now (sim.acted m time).state := by
  subst same
  exact course.act wakes

/-- Each step of a simulation prolongs its course. -/
theorem step?_course {limit : Time} {sim next : Simulation σ ι}
    (course : m.Course began s h sim.now sim.state) (step : sim.step? m limit = some next) :
    ∃ more, m.Course began s (h ++ more) next.now next.state := by
  -- Inputs wait for no act: they come before the machine wakes, or at that moment.
  have awaits {time : Time} (awake : ∀ due, (m.wake sim.state).moment? sim.now = some due →
      sim.now.later time ≤ due) :
      ∃ more, m.Course began s (h ++ more) (sim.takenAll m (sim.now.later time) sim.inputs).now
        (sim.takenAll m (sim.now.later time) sim.inputs).state := by
    refine ⟨[], ?_⟩
    rw [List.append_nil]
    exact takenAll_course m sim.inputs course (sim.now.le_later_left time) awake
  unfold step? at step
  cases wake : m.wake sim.state with
  | running =>
    rw [wake] at step awaits
    cases step
    exact ⟨_, acted_course m course (by rw [wake]; rfl) (Time.later_of_le Rat.le_refl)⟩
  | idle =>
    rw [wake] at step awaits
    cases coming : sim.inputs with
    | nil =>
      rw [coming] at step
      cases step
    | cons first rest =>
      rw [coming] at step
      dsimp only at step
      split at step
      · cases step
        rw [← coming]
        refine awaits fun due wakes => ?_
        cases wakes
      · cases step
  | waking w =>
    rw [wake] at step awaits
    have alone : ∃ more, m.Course began s (h ++ more) (sim.acted m w).now (sim.acted m w).state :=
      ⟨_, acted_course m course (by rw [wake]; rfl) rfl⟩
    cases coming : sim.inputs with
    | nil =>
      rw [coming] at step
      dsimp only at step
      split at step
      · cases step
        exact alone
      · cases step
    | cons first rest =>
      rw [coming] at step
      dsimp only at step
      split at step
      · next early =>
        split at step
        · cases step
          rw [← coming]
          refine awaits fun due wakes => ?_
          cases wakes
          exact Time.later_le (sim.now.le_later_left w) early
        · cases step
      · split at step
        · cases step
          exact alone
        · cases step

theorem run_course {sim : Simulation σ ι} (course : m.Course began s h sim.now sim.state)
    (limit : Time) (final : σ → Bool) (fuel : Nat) :
    ∃ more, m.Course began s (h ++ more) (sim.run m limit final fuel).now
      (sim.run m limit final fuel).state := by
  refine run_invariant m (P := fun sim => ∃ more, m.Course began s (h ++ more) sim.now sim.state)
    ⟨[], by rw [List.append_nil]; exact course⟩ ?_ final fuel
  intro sim next ⟨first, here⟩ step
  obtain ⟨rest, whole⟩ := step?_course m here step
  exact ⟨first ++ rest, by rw [← List.append_assoc]; exact whole⟩

/-- What holds of all courses of a machine holds of its simulations. -/
theorem drive_course (start : σ × List Notice) (now : Time) (inputs : List (Time × ι))
    (limit : Time) (final : σ → Bool) :
    ∃ h, m.Course now start.1 h (drive m start now inputs limit final).now
      (drive m start now inputs limit final).state := by
  unfold drive
  refine run_course (h := []) m ?_ limit final plenty
  exact .start

end Simulation

end BurstLoad
