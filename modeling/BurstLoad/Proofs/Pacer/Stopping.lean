import BurstLoad.Proofs.Pacer.Accounts
import BurstLoad.Proofs.Pacer.Windows

/-! How a stop request ends a run. No burst begins after it, the burst that is under way is sent to
its end and counted, and the run is over as soon as that burst is through. -/

set_option autoImplicit false

namespace BurstLoad.Run

open Machine (History)

/-- When a run ends that was asked to stop: at once, or when its last burst is through. -/
def EndsAt (rate : Nat) (asked : Time) (h : History Run) (time : Time) : Prop :=
  (count .beginning h = 0 ∧ time = asked) ∨
    ∃ index done, count .beginning h = index + 1 ∧ doneAt? rate h index = some done ∧
      time = asked.later done

section Ends

variable {rate : Nat} {asked now : Time} {h : History Run} {r : Run}

theorem EndsAt.concat {e : Deed} {time : Time} (ends : EndsAt rate asked h time) (deed : r.deed = e)
    (other : e ≠ .beginning) (now : Time) : EndsAt rate asked (h ++ [(now, r)]) time := by
  unfold EndsAt
  rw [count_concat_of_ne deed other]
  obtain none | ⟨index, done, begun, through, same⟩ := ends
  · exact .inl none
  · exact .inr ⟨index, done, begun, doneAt?_append through _, same⟩

theorem Between.doneAt? {index : Nat} (between : Between rate h)
    (begun : count .beginning h = index + 1) : ∃ done, doneAt? rate h index = some done := by
  obtain ⟨closed, launched, landed⟩ := between
  unfold Run.doneAt?
  split
  · exact ⟨_, List.getElem?_eq_getElem (by rw [← count]; omega)⟩
  · next some =>
    have room : 0 < rate * (index + 1) := Nat.mul_pos (Nat.pos_of_ne_zero some) index.succ_pos
    rw [launched, ← closed, begun] at landed
    exact ⟨_, List.getElem?_eq_getElem (by rw [← count]; omega)⟩

theorem mem_of_doneAt? {index : Nat} {done : Time} (through : doneAt? rate h index = some done) :
    ∃ act ∈ h, act.1 = done := by
  unfold doneAt? at through
  split at through <;> exact mem_of_moments (List.mem_of_getElem? through)

/-- A burst is closed as it is through. -/
theorem Within.endsAt (within : Within rate 0 0 h) (prompt : IsPrompt rate 0 h now)
    (le : asked ≤ now) (deed : r.deed = .closing) :
    EndsAt rate asked (h ++ [(now, r)]) now := by
  refine .inr ⟨count .closing h, now, ?_, doneAt?_append (doneAt?_of_isPrompt within prompt) _,
    (Time.later_of_le le).symm⟩
  rw [count_concat_of_ne deed (by decide)]
  exact within.closed

/-- Between two bursts a run can end at once. -/
theorem Between.endsAt (between : Between rate h) (past : ∀ act ∈ h, act.1 ≤ now) :
    EndsAt rate now h now := by
  cases begun : count .beginning h with
  | zero => exact .inl ⟨begun, rfl⟩
  | succ index =>
    obtain ⟨done, through⟩ := between.doneAt? begun
    obtain ⟨act, member, same⟩ := mem_of_doneAt? through
    have le := past act member
    rw [same] at le
    exact .inr ⟨index, done, begun, through, (Time.later_of_ge le).symm⟩

end Ends

/-- The phases that a run with a stop request goes through, each fewer steps from the end. -/
def patience (r : Run) : Nat :=
  match r.phase with
  | .ended _ | .cancelled => 0
  | .looking => 1
  | .resting _ => 2
  | .sending _ left => 2 * left + 3
  | .inFlight _ left _ _ => 2 * left + 4

section Wind

variable {p : Pacer} {h more : History Run} {r next : Run} {asked now due : Time}

theorem Move.patience_lt (stop : r.stop = true) (move : Move now r next) :
    next.patience < r.patience := by
  cases move with
  | begin _ go =>
    rw [stop] at go
    cases go
  | leave phase | launch phase | land phase | fail phase | breakOff phase | relapse phase
  | object phase | suffice phase | rest phase | look phase =>
    simp only [patience, phase, finish]
    omega

theorem Move.stop (stop : r.stop = true) (move : Move now r next) : next.stop = true := by
  cases move <;> simp [finish, completed, stop]

theorem Move.observer (move : Move now r next) : next.observer = r.observer := by
  cases move <;> rfl

theorem Move.phase_ne_cancelled (move : Move now r next) : next.phase ≠ .cancelled := by
  cases move <;> simp [finish]

theorem moment?_of_going (going : r.isOver = false) (stop : r.stop = true) :
    ∃ due, (machine.wake r).moment? now = some due := by
  cases phase : r.phase with
  | looking => exact ⟨now, moment?_of_looking phase⟩
  | sending => exact ⟨now, moment?_of_sending phase⟩
  | inFlight burst left flight due =>
    change ∃ due, r.wake.moment? now = some due
    rw [wake, phase]
    dsimp only
    split <;> exact ⟨_, rfl⟩
  | resting => exact ⟨now, by rw [moment?_of_resting phase, if_pos stop]⟩
  | ended | cancelled =>
    rw [isOver, phase] at going
    cases going

/-- A run with a stop request that is left to itself comes to its end. -/
theorem isOver_alone (stop : r.stop = true) (kept : r.phase ≠ .cancelled) (now : Time) :
    ∃ acts, (machine.alone acts now r).2.2.isOver = true ∧
      (machine.alone acts now r).2.2.phase ≠ .cancelled := by
  -- The induction is on the phases that are left.
  induction steps : r.patience using Nat.strongRecOn generalizing r now with
  | ind steps ih =>
    subst steps
    by_cases finished : r.isOver = true
    · exact ⟨0, finished, kept⟩
    · have going := Bool.eq_false_iff.mpr finished
      obtain ⟨due, wakes⟩ := moment?_of_going going stop
      have move := move_act going due
      obtain ⟨acts, ended, still⟩ :=
        ih _ (move.patience_lt stop) (move.stop stop) move.phase_ne_cancelled due rfl
      refine ⟨acts + 1, ?_⟩
      rw [Machine.alone, wakes]
      exact ⟨ended, still⟩

theorem deed_ne_beginning (stop : r.stop = true) : r.deed ≠ .beginning := by
  unfold deed
  split <;> simp [stop]

/-- A run that winds up after a stop request at a moment. -/
def Winding (p : Pacer) (asked : Time) (h : History Run) (now : Time) (r : Run) : Prop :=
  match r.phase with
  | .looking | .resting _ => EndsAt p.rate asked h now
  | .ended fault? => fault? = none ∧ Between p.rate h ∧
    ∃ last ∈ h.getLast?, EndsAt p.rate asked h last.1
  | _ => True

theorem Winding.looking (winding : r.Winding p asked h now) (looking : r.phase = .looking) :
    EndsAt p.rate asked h now := by
  rw [Winding, looking] at winding
  exact winding

theorem Winding.resting {due : Option Time} (winding : r.Winding p asked h now)
    (resting : r.phase = .resting due) : EndsAt p.rate asked h now := by
  rw [Winding, resting] at winding
  exact winding

theorem isFailing_of_land {burst : Burst} {left : Nat} {flight : Flight} {carrier : Carrier}
    {fault : Fault} (underWay : r.phase = .inFlight burst left flight due)
    (landed : r.carrier.land now flight = (carrier, some fault)) : r.IsFailing := by
  have same := r.carrier.land_snd now flight
  rw [landed] at same
  exact ⟨burst, left, flight, due, underWay, by rw [← same]; rfl⟩

/-- The run of a stop request goes on to its end. -/
theorem Winding.act (winding : r.Winding p asked h now) (stop : r.stop = true)
    (stands : r.Stands p h) (clocked : r.Clocked p h now) (balanced : r.Balanced p h)
    (going : r.isOver = false) (sound : ¬ r.IsFailing)
    (content : ∀ burst, (r.observer burst).fault = none) (le : asked ≤ now)
    (wakes : (machine.wake r).moment? now = some due)
    (move : Move due r next) : next.Winding p asked (h ++ [(due, r)]) due := by
  cases move with
  | leave looking =>
    have deed := deed_of_leaving looking stop
    rw [moment?_of_looking looking] at wakes
    cases wakes
    exact ⟨rfl, (stands.between looking).idle now (.inl deed), (now, r), by simp,
      (winding.looking looking).concat deed (by decide) now⟩
  | begin _ go =>
    rw [stop] at go
    cases go
  | launch | land => trivial
  | fail underWay landed | breakOff underWay landed =>
    exact absurd (isFailing_of_land underWay landed) sound
  | relapse sent failed =>
    rw [(balanced.underway going).unfailed] at failed
    cases failed
  | object _ _ objection =>
    rw [content] at objection
    cases objection
  | suffice sent =>
    have deed := deed_of_closing sent
    have within := (stands.sending sent).1
    rw [moment?_of_sending sent] at wakes
    cases wakes
    exact ⟨rfl, within.close now deed, (now, r), by simp,
      within.endsAt (clocked.sending sent) le deed⟩
  | rest sent =>
    rw [moment?_of_sending sent] at wakes
    cases wakes
    exact (stands.sending sent).1.endsAt (clocked.sending sent) le (deed_of_closing sent)
  | look resting =>
    have deed := deed_of_looking resting
    rw [moment?_of_resting resting, if_pos stop] at wakes
    cases wakes
    exact (winding.resting resting).concat deed (by decide) now

theorem Winding.wait {moment : Time} (winding : r.Winding p asked h now) (stop : r.stop = true)
    (low : now ≤ moment)
    (high : ∀ due, (machine.wake r).moment? now = some due → moment ≤ due) :
    r.Winding p asked h moment := by
  unfold Winding
  split
  · next looking =>
    obtain rfl := Rat.le_antisymm low (high now (moment?_of_looking looking))
    exact winding.looking looking
  · next resting =>
    rw [moment?_of_resting resting, if_pos stop] at high
    obtain rfl := Rat.le_antisymm low (high now rfl)
    exact winding.resting resting
  · next finished =>
    rw [Winding, finished] at winding
    exact winding
  · trivial

theorem Winding.take (winding : r.Winding p asked h now) (input : Input) :
    (r.take now input).1.Winding p asked h now := by
  obtain same | same | ⟨-, same⟩ := r.take_eq now input
  · rw [same]
    exact winding
  · rw [same]
    exact winding
  · rw [same]
    trivial

theorem stop_take (stop : r.stop = true) (now : Time) (input : Input) :
    (r.take now input).1.stop = true := by
  obtain same | same | ⟨-, same⟩ := r.take_eq now input
  · rw [same]
    exact stop
  · rw [same]
  · rw [same]
    exact stop

theorem observer_take (r : Run) (now : Time) (input : Input) :
    (r.take now input).1.observer = r.observer := by
  obtain same | same | ⟨-, same⟩ := r.take_eq now input <;> rw [same]

end Wind

section Course

variable {p : Pacer} {h more : History Run} {r t u : Run} {began asked now : Time}
  {carrier : Carrier} {stop : Bool} {maxBursts : Option Int} {observer : Burst → Reaction}

theorem winding_start
    (course : machine.Course began (initial p carrier stop maxBursts observer) h asked u)
    (going : u.isOver = false) : u.Winding p asked h asked := by
  have past : ∀ act ∈ h, act.1 ≤ asked := fun act member => (course.le_now.2 act member).2
  have stands := stands_of_course course
  unfold Winding
  split
  · next looking => exact (stands.between looking).endsAt past
  · next resting => exact (stands.resting resting).1.endsAt past
  · next finished =>
    rw [isOver, finished] at going
    cases going
  · trivial

theorem observer_of_course {first : Run} (course : machine.Course began first h now r) :
    r.observer = first.observer := by
  induction course with
  | start => rfl
  | act _ wakes ih => exact (move_act (going_of_moment? wakes) _).observer.trans ih
  | @take _ _ moment t input _ _ _ ih => exact (observer_take t moment input).trans ih

theorem stop_of_course (stopped : u.stop = true) (after : machine.Course asked u more now t) :
    t.stop = true := by
  induction after with
  | start => exact stopped
  | act _ wakes ih => exact (move_act (going_of_moment? wakes) _).stop ih
  | @take _ _ moment _ input _ _ _ ih => exact stop_take ih moment input

/-- After a stop request no burst begins. -/
theorem beginning_of_course (stopped : u.stop = true)
    (after : machine.Course asked u more now t) : moments .beginning more = [] := by
  induction after with
  | start => rfl
  | act before _ ih =>
    rw [moments_concat_of_ne rfl (deed_ne_beginning (stop_of_course stopped before))]
    exact ih
  | take _ _ _ _ ih => exact ih

theorem winding_of_course (unfailed : p.stats.failure = none)
    (content : ∀ burst, (observer burst).fault = none)
    (before : machine.Course began (initial p carrier stop maxBursts observer) h asked u)
    (stopped : u.stop = true) (going : u.isOver = false)
    (sound : ∀ more now t, machine.Course asked u more now t → ¬ t.IsFailing)
    (after : machine.Course asked u more now t) : t.Winding p asked (h ++ more) now := by
  induction after with
  | start =>
    rw [List.append_nil]
    exact winding_start before going
  | act after wakes ih =>
    have whole := before.append after
    have going := going_of_moment? wakes
    rw [← List.append_assoc]
    refine ih.act (stop_of_course stopped after) (stands_of_course whole) (clocked_of_course whole)
      (balanced_of_course unfailed whole) going (sound _ _ _ after) ?_ after.le_now.1 wakes
      (move_act going _)
    rw [observer_of_course whole]
    exact content
  | take input earlier low high ih =>
    exact (ih.wait (stop_of_course stopped earlier) low high).take input

/-- What a run is that ended after a stop request, with its history up to the request and after
it. -/
structure HasWoundUp (p : Pacer) (asked : Time) (h more : History Run) (r : Run) : Prop where
  returned : r.phase = .ended none
  status : r.pacer.status = .stopped
  bursts : r.pacer.stats.bursts = p.stats.bursts + count .beginning h
  payloads : r.pacer.stats.payloads = p.stats.payloads + p.rate * count .beginning h
  sends : count .launching (h ++ more) = p.rate * count .beginning h ∧
    count .landing (h ++ more) = p.rate * count .beginning h
  ends : ∃ last ∈ (h ++ more).getLast?, EndsAt p.rate asked (h ++ more) last.1

theorem hasWoundUp_of_course (unfailed : p.stats.failure = none)
    (content : ∀ burst, (observer burst).fault = none)
    (before : machine.Course began (initial p carrier stop maxBursts observer) h asked u)
    (stopped : u.stop = true) (going : u.isOver = false)
    (sound : ∀ more now t, machine.Course asked u more now t → ¬ t.IsFailing)
    (after : machine.Course asked u more now t) (finished : t.isOver = true)
    (kept : t.phase ≠ .cancelled) : HasWoundUp p asked h more t := by
  have winding := winding_of_course unfailed content before stopped going sound after
  have whole := before.append after
  obtain ⟨entries, verdict⟩ := balanced_of_course unfailed whole
  have begun : count .beginning (h ++ more) = count .beginning h := by
    rw [count, moments_append, beginning_of_course stopped after, List.append_nil, count]
  cases phase : t.phase with
  | ended fault? =>
    rw [Winding, phase] at winding
    obtain ⟨rfl, between, last, latest, ends⟩ := winding
    obtain ⟨closed, launched, landed⟩ := id between
    rw [phase] at verdict
    obtain ⟨status, -, -, payloads⟩ | ⟨-, -, ⟨left, within, -⟩, -⟩ := verdict
    · refine ⟨phase, status, ?_, ?_, ⟨?_, ?_⟩, last, latest, ends⟩
      · rw [entries.bursts, ← closed, begun]
      · rw [payloads, launched, ← closed, begun]
      · rw [launched, ← closed, begun]
      · rw [landed, launched, ← closed, begun]
    · -- A burst that a failed send cut off is not closed.
      have open_ := within.closed
      omega
  | cancelled => exact absurd phase kept
  | looking | sending | inFlight | resting =>
    rw [isOver, phase] at finished
    cases finished

/-- After a stop request the run takes its burst to the end, begins no other, and is over. -/
theorem windsUp_of_course (unfailed : p.stats.failure = none)
    (content : ∀ burst, (observer burst).fault = none)
    (before : machine.Course began (initial p carrier stop maxBursts observer) h asked u)
    (stopped : u.stop = true) (going : u.isOver = false)
    (sound : ∀ more now t, machine.Course asked u more now t → ¬ t.IsFailing)
    (after : machine.Course asked u more now t) (kept : t.phase ≠ .cancelled) :
    moments .beginning more = [] ∧ (t.isOver = true → HasWoundUp p asked h more t) ∧
      ∃ acts, let (rest, _, last) := machine.alone acts now t
        HasWoundUp p asked h (more ++ rest) last := by
  refine ⟨beginning_of_course stopped after, fun finished => ?_, ?_⟩
  · exact hasWoundUp_of_course unfailed content before stopped going sound after finished kept
  · obtain ⟨acts, finished, still⟩ := isOver_alone (stop_of_course stopped after) kept now
    exact ⟨acts, hasWoundUp_of_course unfailed content before stopped going sound
      (after.append (machine.alone_course acts now t)) finished still⟩

end Course

/-- A run on a carrier none of whose sends fails. -/
structure IsSmooth (r : Run) : Prop where
  carrier : ∃ plan attempts sent, r.carrier = .bare plan attempts sent ∧ ∀ n, (plan n).fault = none
  flight : ∀ burst left flight due, r.phase = .inFlight burst left flight due → flight.fault = none

theorem IsSmooth.act {r next : Run} {now : Time} (smooth : r.IsSmooth) (move : Move now r next) :
    next.IsSmooth := by
  obtain ⟨plan, attempts, sent, bare, sound⟩ := smooth.carrier
  cases move with
  | launch _ launched =>
    rw [bare] at launched
    cases launched
    refine ⟨⟨plan, attempts + 1, sent, rfl, sound⟩, ?_⟩
    intro burst left flight due phase
    cases phase
    exact sound attempts
  | land underWay landed =>
    rw [bare, Carrier.land, smooth.flight _ _ _ _ underWay] at landed
    cases landed
    exact ⟨⟨plan, attempts, _, rfl, sound⟩, by simp⟩
  | fail underWay landed | breakOff underWay landed =>
    rw [bare, Carrier.land, smooth.flight _ _ _ _ underWay] at landed
    cases landed
  | leave | begin | relapse | object | suffice | rest | look =>
    exact ⟨⟨plan, attempts, sent, bare, sound⟩, by simp [finish]⟩

theorem IsSmooth.take {r : Run} (smooth : r.IsSmooth) (now : Time) (input : Input) :
    (r.take now input).1.IsSmooth := by
  obtain same | same | ⟨-, same⟩ := r.take_eq now input
  · rw [same]
    exact smooth
  · rw [same]
    exact ⟨smooth.carrier, smooth.flight⟩
  · rw [same]
    exact ⟨smooth.carrier, by simp⟩

theorem isSmooth_of_course {first r : Run} {h : History Run} {began now : Time}
    (smooth : first.IsSmooth) (course : machine.Course began first h now r) : r.IsSmooth := by
  induction course with
  | start => exact smooth
  | act _ wakes ih => exact ih.act (move_act (going_of_moment? wakes) _)
  | @take _ _ moment _ input _ _ _ ih => exact ih.take moment input

theorem IsSmooth.not_isFailing {r : Run} (smooth : r.IsSmooth) : ¬ r.IsFailing := by
  intro ⟨burst, left, flight, due, underWay, failing⟩
  rw [smooth.flight burst left flight due underWay] at failing
  cases failing

/-- Two fillers in each burst of ten milliseconds, each of which takes four. -/
def steady : Run :=
  initial { rate := 2, nominal := .ms 10, generator := shortFillers }
    (.bare (fun _ => ⟨4, none, false⟩) 0 #[]) false none fun _ => {}

/-- The same run asked to stop at 12, within its second burst. -/
def steadyAsked : Run :=
  ((machine.alone 9 0 steady).2.2.take 12 .stop).1

/-- The second burst began at 10 and is through at 18; then the run ends, without waiting until
20. -/
theorem windsUp_steadyAsked :
    let (h, _, _) := machine.alone 9 0 steady
    let (more, time, t) := machine.alone 6 12 steadyAsked
    moments .beginning h = [0, 10] ∧ t.isOver = true ∧ time = 18 ∧ moments .beginning more = [] ∧
      HasWoundUp { rate := 2, nominal := .ms 10, generator := shortFillers } 12 h more t := by
  have smooth : steady.IsSmooth :=
    ⟨⟨_, _, _, rfl, fun _ => rfl⟩, fun _ _ _ _ phase => by cases phase⟩
  have low : (machine.alone 9 0 steady).2.1 ≤ 12 := by decide +kernel
  have high : ∀ due, (machine.wake (machine.alone 9 0 steady).2.2).moment?
      (machine.alone 9 0 steady).2.1 = some due → 12 ≤ due := by
    intro due wakes
    have landing : (machine.wake (machine.alone 9 0 steady).2.2).moment?
        (machine.alone 9 0 steady).2.1 = some 14 := by decide +kernel
    rw [landing] at wakes
    cases wakes
    decide
  have before : machine.Course 0 steady (machine.alone 9 0 steady).1 12 steadyAsked :=
    (machine.alone_course 9 0 steady).take Input.stop low high
  have finished : (machine.alone 6 12 steadyAsked).2.2.isOver = true := by decide +kernel
  have kept : (machine.alone 6 12 steadyAsked).2.2.phase ≠ .cancelled := by
    intro cancelled
    have ended : ((machine.alone 6 12 steadyAsked).2.2.phase matches .ended _) = true := by
      decide +kernel
    rw [cancelled] at ended
    cases ended
  obtain ⟨none, woundUp, -⟩ := windsUp_of_course rfl (fun _ => rfl) before rfl (by decide +kernel)
    (fun _ _ _ course => (isSmooth_of_course smooth (before.append course)).not_isFailing)
    (machine.alone_course 6 12 steadyAsked) kept
  exact ⟨by decide +kernel, finished, by decide +kernel, none, woundUp finished⟩

end BurstLoad.Run
