import BurstLoad.Proofs.Course

/-! When a simulation goes on, and when it rests. What the machine does next is due at a moment, and
so is the next input; the simulation rests when both lie beyond its limit. A simulation that rests
stays where it is, however long it is run. -/

set_option autoImplicit false

namespace BurstLoad

/-- Until the moment at which something wakes, that moment stays the same. -/
theorem Wake.moment?_of_le {w : Wake} {now later : Time} (waits : w ≠ .running) (onward : now ≤ later)
    (before : ∀ due, w.moment? now = some due → later ≤ due) : w.moment? later = w.moment? now := by
  cases w with
  | running => exact absurd rfl waits
  | waking time => exact congrArg some (Time.later_later onward (before _ rfl))
  | idle => rfl

variable {σ ι : Type}

namespace Simulation

/-- Nothing more happens up to a limit, or the state is final. -/
def Rests (m : Machine σ ι) (limit : Time) (final : σ → Bool) (s : Simulation σ ι) : Prop :=
  final s.state = true ∨ s.step? m limit = none

section Step

variable (m : Machine σ ι) {limit : Time} {s : Simulation σ ι}

theorem run_of_rests {final : σ → Bool} (rests : s.Rests m limit final) (fuel : Nat) :
    s.run m limit final fuel = s := by
  cases fuel with
  | zero => rfl
  | succ fuel =>
    rw [run]
    obtain finished | still := rests
    · rw [if_pos finished]
    · split
      · rfl
      · rw [still]

theorem run_succ {final : σ → Bool} (unfinished : ¬ final s.state = true) {next : Simulation σ ι}
    (step : s.step? m limit = some next) (fuel : Nat) :
    s.run m limit final (fuel + 1) = next.run m limit final fuel := by
  rw [run, if_neg unfinished, step]

theorem run_add (final : σ → Bool) (first second : Nat) (s : Simulation σ ι) :
    s.run m limit final (first + second) =
      (s.run m limit final first).run m limit final second := by
  induction first generalizing s with
  | zero => rw [Nat.zero_add]; rfl
  | succ first ih =>
    rw [Nat.add_right_comm, run, run]
    split
    · next finished => rw [run_of_rests m (.inl finished)]
    · split
      · next still => rw [run_of_rests m (.inr still)]
      · exact ih _

/-- The machine acts when it wakes, unless an input comes first. -/
theorem step?_of_wakes {due : Time} (wakes : (m.wake s.state).moment? s.now = some due)
    (soon : due ≤ limit)
    (first : m.wake s.state = .running ∨ ∀ input ∈ s.inputs.head?, due < input.1) :
    s.step? m limit = some ⟨due, (m.act due s.state).1, s.inputs,
      s.journal.record due (m.act due s.state).2⟩ := by
  have acted_eq (time : Time) (same : s.now.later time = due) : s.acted m time =
      ⟨due, (m.act due s.state).1, s.inputs, s.journal.record due (m.act due s.state).2⟩ := by
    rw [← same]
    rfl
  unfold step?
  cases wake : m.wake s.state with
  | running =>
    rw [wake] at wakes
    cases wakes
    rw [acted_eq s.now (Time.later_of_le Rat.le_refl)]
  | idle =>
    rw [wake] at wakes
    cases wakes
  | waking w =>
    rw [wake] at wakes first
    obtain ⟨⟩ := wakes
    have inTime : w ≤ limit := Rat.le_trans (s.now.le_later_right w) soon
    have onward := acted_eq w rfl
    cases coming : s.inputs with
    | nil => simp only [inTime, if_true, onward, coming]
    | cons input rest =>
      have late : ¬ input.1 ≤ s.now.later w := by
        rw [coming] at first
        simpa [Rat.not_le] using first
      simp only [late, inTime, if_true, if_false, onward, coming]

/-- Inputs are taken when the first of them comes, unless the machine wakes before. -/
theorem step?_of_input {first : Time × ι} {rest : List (Time × ι)}
    (waits : m.wake s.state ≠ .running) (coming : s.inputs = first :: rest) (soon : first.1 ≤ limit)
    (early : ∀ due, (m.wake s.state).moment? s.now = some due → first.1 ≤ due) :
    s.step? m limit = some (s.takenAll m (s.now.later first.1) s.inputs) := by
  unfold step?
  cases wake : m.wake s.state with
  | running => exact absurd wake waits
  | idle => simp only [coming, soon, if_true]
  | waking w =>
    rw [wake] at early
    simp only [coming, soon, early _ rfl, if_true]

/-- A machine with nothing more to do wakes beyond the limit if at all, and so do its inputs come. -/
theorem step?_eq_none_iff (inTime : s.now ≤ limit) :
    s.step? m limit = none ↔ (∀ due, (m.wake s.state).moment? s.now = some due → limit < due) ∧
      ∀ input ∈ s.inputs.head?, limit < input.1 := by
  constructor
  · intro still
    have late : ∀ due, (m.wake s.state).moment? s.now = some due → limit < due := by
      intro due wakes
      rw [← Rat.not_le]
      intro soon
      by_cases first : m.wake s.state = .running ∨ ∀ input ∈ s.inputs.head?, due < input.1
      · rw [step?_of_wakes m wakes soon first] at still
        cases still
      · simp only [not_or, Classical.not_forall, Rat.not_lt] at first
        obtain ⟨waits, input, member, early⟩ := first
        obtain ⟨rest, coming⟩ := List.head?_eq_some_iff.mp member
        rw [step?_of_input m waits coming (Rat.le_trans early soon)] at still
        · cases still
        · intro other same
          rw [wakes] at same
          cases same
          exact early
    refine ⟨late, fun input member => ?_⟩
    rw [← Rat.not_le]
    intro soon
    obtain ⟨rest, coming⟩ := List.head?_eq_some_iff.mp member
    rw [step?_of_input m ?_ coming soon] at still
    · cases still
    · exact fun due wakes => Rat.le_trans soon (Rat.le_of_lt (late due wakes))
    · intro running
      have beyond := late s.now (by rw [running]; rfl)
      exact Rat.not_le.mpr beyond inTime
  · intro ⟨late, later⟩
    cases step : s.step? m limit with
    | none => rfl
    | some next =>
      exfalso
      obtain ⟨time, -, ⟨running, rfl⟩ | ⟨waking, soon, -⟩⟩ | ⟨-, first, rest, coming, soon, -⟩ :=
        step?_cases m step
      · have beyond := late s.now (by rw [running]; rfl)
        exact Rat.not_le.mpr beyond inTime
      · have beyond := late (s.now.later time) (by rw [waking]; rfl)
        exact Rat.not_le.mpr beyond (Time.later_le inTime soon)
      · have beyond := later first (by rw [coming]; rfl)
        exact Rat.not_le.mpr beyond soon

theorem takenAll_of_late {now : Time} {inputs : List (Time × ι)}
    (late : ∀ input ∈ inputs.head?, now < input.1) : s.takenAll m now inputs = s := by
  cases inputs with
  | nil => rfl
  | cons first rest =>
    have later : ¬ first.1 ≤ now := Rat.not_le.mpr (late first rfl)
    rw [takenAll, if_neg later]

theorem now_takenAll {now : Time} (inputs : List (Time × ι)) (same : s.now = now) :
    (s.takenAll m now inputs).now = now := by
  induction inputs generalizing s with
  | nil => exact same
  | cons first rest ih =>
    rw [takenAll]
    split
    · exact ih rfl
    · exact same

theorem now_takenAll_of_le {now : Time} {inputs : List (Time × ι)} {first : Time × ι}
    (member : first ∈ inputs.head?) (due : first.1 ≤ now) :
    (s.takenAll m now inputs).now = now := by
  obtain ⟨rest, rfl⟩ := List.head?_eq_some_iff.mp member
  rw [takenAll, if_pos due]
  exact now_takenAll m rest rfl

theorem length_takenAll {now : Time} {inputs : List (Time × ι)} (own : s.inputs = inputs) :
    (s.takenAll m now inputs).inputs.length ≤ inputs.length := by
  induction inputs generalizing s with
  | nil => exact Nat.le_of_eq (congrArg List.length own)
  | cons first rest ih =>
    rw [takenAll]
    split
    · exact Nat.le_succ_of_le (ih rfl)
    · exact Nat.le_of_eq (congrArg List.length own)

end Step

/-- Sorting puts an element between what comes before it and what does not. -/
theorem mergeSort_cons_eq {α : Type} {le : α → α → Bool}
    (trans : ∀ a b c, le a b = true → le b c = true → le a c = true)
    (total : ∀ a b, (le a b || le b a) = true) (a : α) (l : List α) :
    (a :: l).mergeSort le = ((l.mergeSort le).filter fun b => !le a b) ++
      a :: (l.mergeSort le).filter (le a) := by
  obtain ⟨before, behind, whole, rest, early⟩ := List.mergeSort_cons trans total a l
  have sorted := List.pairwise_mergeSort trans total (a :: l)
  rw [whole, List.pairwise_append] at sorted
  have late (b : α) (member : b ∈ behind) : le a b = true :=
    List.rel_of_pairwise_cons sorted.2.1 member
  have none : before.filter (le a) = [] := by
    rw [List.filter_eq_nil_iff]
    intro b member after
    simpa [after] using early b member
  have none' : (behind.filter fun b => !le a b) = [] := by
    rw [List.filter_eq_nil_iff]
    intro b member before
    simp [late b member] at before
  rw [whole, rest, List.filter_append, List.filter_append, none, none',
    List.filter_eq_self.mpr early, List.filter_eq_self.mpr late]
  simp

/-- Sorting what is left of a list leaves it in the order in which it was. -/
theorem filter_mergeSort {α : Type} {le : α → α → Bool}
    (trans : ∀ a b c, le a b = true → le b c = true → le a c = true)
    (total : ∀ a b, (le a b || le b a) = true) (p : α → Bool) (l : List α) :
    (l.mergeSort le).filter p = (l.filter p).mergeSort le := by
  induction l with
  | nil => simp
  | cons a l ih =>
    have others (q : α → Bool) : ((l.mergeSort le).filter q).filter p =
        ((l.filter p).mergeSort le).filter q := by
      rw [← ih, List.filter_filter, List.filter_filter]
      congr 1
      funext b
      exact Bool.and_comm _ _
    cases chosen : p a with
    | true =>
      rw [List.filter_cons_of_pos chosen, mergeSort_cons_eq trans total,
        mergeSort_cons_eq trans total, List.filter_append, List.filter_cons_of_pos chosen, others,
        others]
    | false =>
      obtain ⟨before, behind, whole, rest, -⟩ := List.mergeSort_cons trans total a l
      rw [List.filter_cons_of_neg (by simp [chosen]), ← ih, whole, rest]
      simp [chosen]

/-- The start of a simulation. -/
def scripted (s : σ) (now : Time) (inputs : List (Time × ι)) : Simulation σ ι where
  now
  state := s
  inputs := inputs.mergeSort fun a b => decide (a.1 ≤ b.1)

theorem drive_eq (m : Machine σ ι) (s : σ) (now : Time) (inputs : List (Time × ι)) (limit : Time)
    (final : σ → Bool) :
    drive m (s, []) now inputs limit final = (scripted s now inputs).run m limit final plenty :=
  rfl

theorem le_trans_time (a b c : Time × ι) (first : decide (a.1 ≤ b.1) = true)
    (second : decide (b.1 ≤ c.1) = true) : decide (a.1 ≤ c.1) = true := by
  simp only [decide_eq_true_eq] at first second ⊢
  exact Rat.le_trans first second

theorem le_total_time (a b : Time × ι) : (decide (a.1 ≤ b.1) || decide (b.1 ≤ a.1)) = true := by
  simpa using Rat.le_total

/-- Inputs that come in their order stay in it. -/
theorem scripted_of_sorted (s : σ) (now : Time) {inputs : List (Time × ι)}
    (sorted : inputs.Pairwise fun first second => first.1 ≤ second.1) :
    scripted s now inputs = ⟨now, s, inputs, #[]⟩ := by
  rw [scripted, List.mergeSort_of_pairwise (sorted.imp decide_eq_true)]

theorem sorted_scripted (s : σ) (now : Time) (inputs : List (Time × ι)) :
    (scripted s now inputs).inputs.Pairwise fun first second => first.1 ≤ second.1 := by
  simpa [scripted] using List.pairwise_mergeSort le_trans_time le_total_time inputs

theorem filter_scripted (s t : σ) (now : Time) (p : Time × ι → Bool) (inputs : List (Time × ι)) :
    (scripted s now inputs).inputs.filter p = (scripted t now (inputs.filter p)).inputs :=
  filter_mergeSort le_trans_time le_total_time p inputs

end Simulation

end BurstLoad
