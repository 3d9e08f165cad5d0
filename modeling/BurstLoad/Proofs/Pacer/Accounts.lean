import BurstLoad.Proofs.Pacer.History

/-! The books of a run of bursts. The statistics and the generator's counter agree with what the run
did, at every point and whatever comes to it; a burst that a failed send cuts off is begun, but
counted nowhere. -/

set_option autoImplicit false

namespace BurstLoad.Run

open Machine (History)

/-- The bursts that were closed, each with the moments at which it began and was closed. -/
def closedBursts (h : History Run) : List (Time × Time) :=
  (moments .beginning h).zip (moments .closing h)

/-- How many of the bursts that were closed took longer than a span. -/
def countOverruns (nominal : Span) (h : History Run) : Nat :=
  (closedBursts h).countP fun burst => nominal.exceededBy (burst.2 - burst.1)

/-- What a pacer counted since a run began with it, and how often its generator went on. -/
structure Entries (p : Pacer) (h : History Run) (q : Pacer) : Prop where
  generator : q.generator.counters.burst = p.generator.counters.burst + count .closing h
  bursts : q.stats.bursts = p.stats.bursts + count .closing h
  overruns : q.stats.overruns = p.stats.overruns + countOverruns p.nominal h

/-- A run that goes on, or came to a point at which it may be cut off. -/
structure Underway (p : Pacer) (h : History Run) (q : Pacer) : Prop where
  running : q.status = .running
  unfailed : q.stats.failure = none
  payloads : q.stats.payloads = p.stats.payloads + count .landing h

/-- A run that ended as a stop request or the limit on bursts asked. -/
structure Stopped (p : Pacer) (h : History Run) (q : Pacer) : Prop where
  status : q.status = .stopped
  unfailed : q.stats.failure = none
  between : Between p.rate h
  payloads : q.stats.payloads = p.stats.payloads + count .launching h

/-- A run that a failed send ended. -/
structure Failed (p : Pacer) (h : History Run) (q : Pacer) : Prop where
  status : q.status = .failed
  failure : q.stats.failure.isSome = true
  within : ∃ left, Within p.rate left 0 h ∧ left < p.rate
  payloads : q.stats.payloads + 1 = p.stats.payloads + count .launching h

/-- A run that was cut off within a burst or after it. -/
structure CutOff (p : Pacer) (h : History Run) (q : Pacer) : Prop where
  low : p.stats.payloads + p.rate * count .closing h ≤ q.stats.payloads
  high : q.stats.payloads ≤ p.stats.payloads + p.rate * count .closing h + p.rate

/-- The books of a run whose pacer had not failed before it. -/
structure Balanced (p : Pacer) (h : History Run) (r : Run) : Prop where
  entries : Entries p h r.pacer
  verdict : match r.phase with
    | .ended none => Stopped p h r.pacer ∨ Failed p h r.pacer
    | .ended (some _) | .cancelled => CutOff p h r.pacer
    | _ => Underway p h r.pacer

/-- Entries of one list that have no partner are not zipped. -/
theorem zip_append_of_le {α β : Type} (l more : List α) {m : List β} (short : m.length ≤ l.length) :
    (l ++ more).zip m = l.zip m := by
  induction l generalizing m with
  | nil =>
    rw [List.length_nil, Nat.le_zero, List.length_eq_zero_iff] at short
    simp [short]
  | cons first l ih =>
    cases m with
    | nil => rfl
    | cons other m => simp [ih (Nat.le_of_succ_le_succ short)]

section Step

variable {p : Pacer} {h : History Run} {r : Run} {now : Time}

theorem length_closedBursts (closed : count .closing h ≤ count .beginning h) :
    (closedBursts h).length = count .closing h := by
  rw [closedBursts, List.length_zip]
  exact Nat.min_eq_right closed

theorem closedBursts_concat_of_ne {e : Deed} (deed : r.deed = e) (other : e ≠ .closing)
    (closed : count .closing h ≤ count .beginning h) :
    closedBursts (h ++ [(now, r)]) = closedBursts h := by
  unfold closedBursts
  rw [moments_concat_of_ne deed other, moments_concat, zip_append_of_le _ _ closed]

/-- The burst that is closed is the one that began last. -/
theorem closedBursts_concat_of_eq {burst : Burst} (deed : r.deed = .closing)
    (begun : count .beginning h = count .closing h + 1) (current : Current p h burst) :
    closedBursts (h ++ [(now, r)]) = closedBursts h ++ [(burst.started, now)] := by
  obtain ⟨before, starts⟩ := List.getLast?_eq_some_iff.mp current.started
  have paired : before.length = (moments .closing h).length := by
    simpa [count, starts] using begun
  unfold closedBursts
  rw [moments_concat_of_eq deed, moments_concat_of_ne deed (by decide), starts,
    List.zip_append paired, zip_append_of_le before _ (Nat.le_of_eq paired.symm)]
  rfl

theorem countOverruns_concat_of_ne {e : Deed} (deed : r.deed = e) (other : e ≠ .closing)
    (closed : count .closing h ≤ count .beginning h) (nominal : Span) :
    countOverruns nominal (h ++ [(now, r)]) = countOverruns nominal h := by
  rw [countOverruns, closedBursts_concat_of_ne deed other closed, countOverruns]

theorem countOverruns_concat_of_eq {burst : Burst} (deed : r.deed = .closing)
    (begun : count .beginning h = count .closing h + 1) (current : Current p h burst) :
    countOverruns p.nominal (h ++ [(now, r)]) =
      countOverruns p.nominal h + if (burst.closedAt now).overrun then 1 else 0 := by
  rw [countOverruns, countOverruns, closedBursts_concat_of_eq deed begun current,
    List.countP_append, List.countP_singleton, Burst.overrun, Burst.closedAt, current.nominal]

theorem Entries.keep {q next : Pacer} {e : Deed} (entries : Entries p h q) (deed : r.deed = e)
    (other : e ≠ .closing) (beyond : Beyond p.rate h)
    (burst : next.generator.counters.burst = q.generator.counters.burst)
    (bursts : next.stats.bursts = q.stats.bursts)
    (overruns : next.stats.overruns = q.stats.overruns) :
    Entries p (h ++ [(now, r)]) next := by
  constructor
  · rw [count_concat_of_ne deed other, burst]
    exact entries.generator
  · rw [count_concat_of_ne deed other, bursts]
    exact entries.bursts
  · rw [countOverruns_concat_of_ne deed other beyond.closed, overruns]
    exact entries.overruns

theorem Entries.close {q : Pacer} {burst : Burst} (entries : Entries p h q)
    (deed : r.deed = .closing) (begun : count .beginning h = count .closing h + 1)
    (current : Current p h burst) (now : Time) :
    Entries p (h ++ [(now, r)]) (q.completeBurst (burst.closedAt now)) := by
  obtain ⟨generator, bursts, overruns⟩ := entries
  constructor
  · rw [count_concat_of_eq deed]
    simp only [Pacer.completeBurst, Payload.Generator.advanceBurst, Payload.Counters.advanceBurst]
    omega
  · rw [count_concat_of_eq deed]
    simp only [Pacer.completeBurst]
    omega
  · rw [countOverruns_concat_of_eq deed begun current]
    simp only [Pacer.completeBurst]
    omega

theorem Balanced.underway (balanced : r.Balanced p h) (going : r.isOver = false) :
    Underway p h r.pacer := by
  have verdict := balanced.verdict
  cases phase : r.phase with
  | ended | cancelled =>
    rw [isOver, phase] at going
    cases going
  | looking | sending | inFlight | resting =>
    rw [phase] at verdict
    exact verdict

/-- A run that goes on may be cut off where it stands. -/
theorem Underway.cutOff {q : Pacer} (underway : Underway p h q) (beyond : Beyond p.rate h) :
    CutOff p h q := by
  obtain ⟨-, -, payloads⟩ := underway
  obtain ⟨-, begun, landed, launched, room⟩ := beyond
  have most : p.rate * count .beginning h ≤ p.rate * count .closing h + p.rate :=
    Nat.mul_le_mul_left p.rate begun
  constructor <;> omega

theorem Underway.keep {q next : Pacer} {e : Deed} (underway : Underway p h q) (deed : r.deed = e)
    (other : e ≠ .landing) (status : next.status = q.status)
    (failure : next.stats.failure = q.stats.failure)
    (payloads : next.stats.payloads = q.stats.payloads) : Underway p (h ++ [(now, r)]) next := by
  constructor
  · rw [status]
    exact underway.running
  · rw [failure]
    exact underway.unfailed
  · rw [payloads, count_concat_of_ne deed other]
    exact underway.payloads

theorem Underway.stopped {q : Pacer} (underway : Underway p h q) (between : Between p.rate h) :
    Stopped p h { q with status := .stopped } := by
  refine ⟨rfl, underway.unfailed, between, ?_⟩
  rw [← between.landed]
  exact underway.payloads

/-- Each act keeps the books. -/
theorem Balanced.act {next : Run} (balanced : r.Balanced p h) (stands : r.Stands p h)
    (going : r.isOver = false) (move : Move now r next) :
    next.Balanced p (h ++ [(now, r)]) := by
  have underway := balanced.underway going
  have entries := balanced.entries
  have beyond := stands.beyond
  cases move with
  | leave looking stop =>
    have deed := deed_of_leaving looking stop
    refine ⟨entries.keep deed (by decide) beyond rfl rfl rfl, .inl ?_⟩
    exact (underway.keep deed (by decide) rfl rfl rfl).stopped
      ((stands.between looking).idle now (.inl deed))
  | begin looking stop =>
    have deed := deed_of_beginning looking stop
    exact ⟨entries.keep deed (by decide) beyond rfl rfl rfl,
      underway.keep deed (by decide) rfl rfl rfl⟩
  | launch sending =>
    have deed := deed_of_launching sending
    exact ⟨entries.keep deed (by decide) beyond r.pacer.generator.burst_next rfl rfl,
      underway.keep deed (by decide) rfl rfl rfl⟩
  | land underWay =>
    have deed := deed_of_landing underWay
    refine ⟨entries.keep deed (by decide) beyond rfl rfl rfl, underway.running,
      underway.unfailed, ?_⟩
    rw [count_concat_of_eq deed, ← Nat.add_assoc, ← underway.payloads]
    rfl
  | fail underWay =>
    have deed := deed_of_landing underWay
    have within := (stands.inFlight underWay).1
    refine ⟨entries.keep deed (by decide) beyond rfl rfl rfl, .inr ⟨rfl, rfl,
      ⟨_, within.land now deed, within.room⟩, ?_⟩⟩
    rw [count_concat_of_ne deed (by decide), ← within.landed, ← Nat.add_assoc,
      ← underway.payloads]
    rfl
  | breakOff underWay =>
    have deed := deed_of_landing underWay
    refine ⟨entries.keep deed (by decide) beyond rfl rfl rfl, ?_⟩
    -- What broke off the run was not counted.
    obtain ⟨low, high⟩ := underway.cutOff beyond
    rw [← count_concat_of_ne (d := .closing) deed (by decide) h now] at low high
    exact ⟨low, high⟩
  | relapse sent failed =>
    rw [underway.unfailed] at failed
    cases failed
  | @object burst _ sent =>
    have deed := deed_of_closing sent
    obtain ⟨within, current⟩ := stands.sending sent
    have after : Underway p (h ++ [(now, r)]) (r.pacer.completeBurst (burst.closedAt now)) :=
      underway.keep deed (by decide) rfl rfl rfl
    exact ⟨entries.close deed within.closed current now,
      after.cutOff (within.close now deed).beyond⟩
  | @suffice burst sent =>
    have deed := deed_of_closing sent
    obtain ⟨within, current⟩ := stands.sending sent
    have after : Underway p (h ++ [(now, r)]) (r.pacer.completeBurst (burst.closedAt now)) :=
      underway.keep deed (by decide) rfl rfl rfl
    obtain ⟨generator, bursts, overruns⟩ := entries.close deed within.closed current now
    exact ⟨⟨generator, bursts, overruns⟩, .inl (after.stopped (within.close now deed))⟩
  | rest sent =>
    have deed := deed_of_closing sent
    obtain ⟨within, current⟩ := stands.sending sent
    exact ⟨entries.close deed within.closed current now,
      underway.keep deed (by decide) rfl rfl rfl⟩
  | look resting =>
    have deed := deed_of_looking resting
    exact ⟨entries.keep deed (by decide) beyond rfl rfl rfl,
      underway.keep deed (by decide) rfl rfl rfl⟩

theorem Balanced.take (balanced : r.Balanced p h) (stands : r.Stands p h) (now : Time)
    (input : Input) : (r.take now input).1.Balanced p h := by
  obtain same | same | ⟨going, same⟩ := r.take_eq now input
  · rw [same]
    exact balanced
  · rw [same]
    exact ⟨balanced.entries, balanced.verdict⟩
  · rw [same]
    exact ⟨balanced.entries, (balanced.underway going).cutOff stands.beyond⟩

end Step

/-- What the books of a run say that began with a generator and no statistics. -/
structure HasAccounts (g : Payload.Generator) (rate : Nat) (nominal : Span) (h : History Run)
    (r : Run) : Prop where
  bursts : r.pacer.stats.bursts = count .closing h
  generator : r.pacer.generator.counters.burst - g.counters.burst = r.pacer.stats.bursts
  overruns : r.pacer.stats.overruns = countOverruns nominal h
  low : rate * r.pacer.stats.bursts ≤ r.pacer.stats.payloads
  high : r.pacer.stats.payloads ≤ rate * (r.pacer.stats.bursts + 1)
  returned : r.phase = .ended none →
    (r.pacer.status = .stopped ∨ r.pacer.status = .failed) ∧
      (r.pacer.status = .failed ↔ r.pacer.stats.failure.isSome = true)
  stopped : r.phase = .ended none → r.pacer.status = .stopped →
    r.pacer.stats.payloads = rate * r.pacer.stats.bursts ∧
      count .launching h = r.pacer.stats.payloads
  -- the burst that failed is the one that began and was not closed
  failed : r.phase = .ended none → r.pacer.status = .failed →
    r.pacer.stats.payloads < rate * (r.pacer.stats.bursts + 1) ∧
      count .launching h = r.pacer.stats.payloads + 1 ∧
      count .beginning h = r.pacer.stats.bursts + 1

section Course

variable {p : Pacer} {h : History Run} {r : Run} {began now : Time} {carrier : Carrier}
  {stop : Bool} {maxBursts : Option Int} {observer : Burst → Reaction}

theorem balanced_initial (unfailed : p.stats.failure = none) (carrier : Carrier) (stop : Bool)
    (maxBursts : Option Int) (observer : Burst → Reaction) :
    (initial p carrier stop maxBursts observer).Balanced p [] :=
  ⟨⟨(Int.add_zero _).symm, rfl, rfl⟩, rfl, unfailed, rfl⟩

theorem balanced_of_course (unfailed : p.stats.failure = none)
    (course : machine.Course began (initial p carrier stop maxBursts observer) h now r) :
    r.Balanced p h := by
  induction course with
  | start => exact balanced_initial unfailed carrier stop maxBursts observer
  | act before wakes ih =>
    have going := going_of_moment? wakes
    exact ih.act (stands_of_course before) going (move_act going _)
  | @take _ _ moment _ input before _ _ ih => exact ih.take (stands_of_course before) moment input

/-- Whatever phase a run is in, its payloads are at most a burst ahead of its bursts. -/
theorem Balanced.cutOff (balanced : r.Balanced p h) (stands : r.Stands p h) :
    CutOff p h r.pacer := by
  have verdict := balanced.verdict
  have beyond := stands.beyond
  split at verdict
  · obtain ⟨-, -, between, payloads⟩ | ⟨-, -, ⟨left, within, room⟩, payloads⟩ := verdict
    · obtain ⟨-, launched, -⟩ := between
      constructor <;> omega
    · obtain ⟨-, launched, landed, -⟩ := within
      constructor <;> omega
  · exact verdict
  · exact verdict
  · exact verdict.cutOff beyond

/-- Whatever a run is driven through, the numbers that it has come to fit together. -/
theorem payloads_of_drive {rate : Nat} {nominal : Span} {historySize : Int}
    {g : Payload.Generator} (built : Pacer.ofRate? rate nominal historySize g = .ok p)
    (notices : List Notice) (inputs : List (Time × Input)) (limit : Time) (final : Run → Bool) :
    let last := (Simulation.drive machine (initial p carrier stop maxBursts observer, notices) began
      inputs limit final).state.pacer.stats
    rate * last.bursts ≤ last.payloads ∧ last.payloads ≤ rate * (last.bursts + 1) := by
  obtain ⟨rfl, rfl, rfl, unused⟩ := Pacer.fresh_of_ofRate? built
  obtain ⟨h, course⟩ := Simulation.drive_course machine
    (initial p carrier stop maxBursts observer, notices) began inputs limit final
  have balanced := balanced_of_course (by rw [unused]) course
  obtain ⟨low, high⟩ := balanced.cutOff (stands_of_course course)
  have bursts := balanced.entries.bursts
  rw [unused, Nat.zero_add] at bursts low high
  rw [← bursts] at low high
  exact ⟨low, by rw [Nat.mul_succ]; exact high⟩

/-- A failed send leaves one burst that began and was not closed. -/
theorem Balanced.begun_of_failed (balanced : r.Balanced p h) (returned : r.phase = .ended none)
    (failed : r.pacer.status = .failed) : count .beginning h = count .closing h + 1 := by
  have verdict := balanced.verdict
  rw [returned] at verdict
  obtain stopped | ⟨-, -, ⟨left, within, -⟩, -⟩ := verdict
  · rw [stopped.status] at failed
    cases failed
  · exact within.closed

/-- The books of a fresh run agree with what it did, at every point and in every ending. -/
theorem hasAccounts_of_course {rate : Nat} {nominal : Span} {historySize : Int}
    {g : Payload.Generator} (built : Pacer.ofRate? rate nominal historySize g = .ok p)
    (course : machine.Course began (initial p carrier stop maxBursts observer) h now r) :
    r.HasAccounts g rate nominal h := by
  obtain ⟨rfl, rfl, rfl, unused⟩ := Pacer.fresh_of_ofRate? built
  have balanced := balanced_of_course (by rw [unused]) course
  obtain ⟨low, high⟩ := balanced.cutOff (stands_of_course course)
  obtain ⟨⟨generator, bursts, overruns⟩, verdict⟩ := balanced
  rw [unused, Nat.zero_add] at bursts overruns low high
  rw [← bursts] at low high generator
  refine ⟨bursts, by omega, overruns, low, high, fun finished => ?_, fun finished status => ?_,
    fun finished status => ?_⟩
  all_goals
    rw [finished] at verdict
    obtain ⟨stopped, unfailed, between, payloads⟩ | ⟨failed, failure, within, payloads⟩ := verdict
  case refine_1.inl => simp [stopped, unfailed]
  case refine_1.inr => simp [failed, failure]
  case refine_2.inl =>
    rw [unused, Nat.zero_add] at payloads
    exact ⟨by rw [payloads, between.launched, bursts], payloads.symm⟩
  case refine_2.inr =>
    rw [failed] at status
    cases status
  case refine_3.inl =>
    rw [stopped] at status
    cases status
  case refine_3.inr =>
    obtain ⟨left, ⟨closed, launched, -⟩, room⟩ := within
    rw [unused, Nat.zero_add] at payloads
    rw [← bursts] at launched closed
    exact ⟨by rw [Nat.mul_succ]; omega, payloads.symm, closed⟩

end Course

/-- Two fillers in each burst; each send takes long, and the fourth one fails. -/
def cutInSecond : Run :=
  initial { rate := 2, nominal := .ms 7, generator := shortFillers }
    (.bare (fun n => ⟨4, if n = 3 then some (.transport "gone") else none, false⟩) 0 #[])
    false none fun _ => {}

/-- The first burst is an overrun, the second one is counted nowhere. -/
theorem hasAccounts_cutInSecond :
    let (h, _, r) := machine.alone 14 0 cutInSecond
    r.isOver = true ∧ r.pacer.status = .failed ∧ r.pacer.stats.bursts = 1 ∧
      r.pacer.stats.payloads = 3 ∧ r.pacer.stats.overruns = 1 ∧
      r.HasAccounts shortFillers 2 (.ms 7) h :=
  ⟨by decide +kernel, by decide +kernel, by decide +kernel, by decide +kernel, by decide +kernel,
    hasAccounts_of_course (show Pacer.ofRate? (2 : Nat) (.ms 7) 0 _ = .ok _ from rfl)
      (machine.alone_course 14 0 cutInSecond)⟩

end BurstLoad.Run
