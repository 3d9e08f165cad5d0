import BurstLoad.Proofs.Pacer.Stopping
import Mathlib.Data.List.DropRight

/-! What a run shows of its bursts. The observer is called as a burst is closed and at no other time, so
that it sees each burst that was sent to its end, once and in order; the history holds the last of
these. A burst that a failed send cuts off is in neither. -/

set_option autoImplicit false

namespace BurstLoad

/-- A burst as it is shown: all its transactions are sent, between the times of its beginning and its
end. -/
def Burst.whole (rate : Nat) (nominal : Span) (index : Nat) (times : Time × Time) : Burst :=
  { index, started := times.1, nominal, elapsed := times.2 - times.1, sent := rate }

theorem rtake_rtake {α : Type} (l : List α) (m n : Nat) :
    (l.rtake n).rtake m = l.rtake (min m n) := by
  simp only [List.rtake_eq_reverse_take_reverse, List.reverse_reverse, List.take_take]

theorem rtake_min_length {α : Type} (l : List α) (n : Nat) :
    l.rtake (min n l.length) = l.rtake n := by
  unfold List.rtake
  congr 1
  omega

/-- A history that holds the last bursts holds the last ones when there is one more. -/
theorem Pacer.remember_rtake (size : Nat) (bursts : List Burst) (b : Burst) :
    remember size (bursts.rtake size) b = (bursts ++ [b]).rtake size := by
  cases size with
  | zero => simp [remember]
  | succ size =>
    calc remember (size + 1 : Nat) (bursts.rtake (size + 1)) b
        = (bursts.rtake (size + 1) ++ [b]).rtake (size + 1) := by
          rw [remember, if_neg (by omega), if_pos (by omega)]
          rfl
      _ = (bursts.rtake (size + 1)).rtake size ++ [b] := List.rtake_concat_succ _ _ _
      _ = bursts.rtake size ++ [b] := by rw [rtake_rtake, Nat.min_eq_left size.le_succ]
      _ = (bursts ++ [b]).rtake (size + 1) := (List.rtake_concat_succ _ _ _).symm

namespace Run

open Machine (History)

/-- The bursts that were closed, as they are shown. -/
def shown (rate : Nat) (nominal : Span) (h : History Run) : List Burst :=
  (closedBursts h).mapIdx (Burst.whole rate nominal)

section Shown

variable {p : Pacer} {h : History Run} {r : Run} {now : Time}

theorem shown_concat_of_ne {e : Deed} (deed : r.deed = e) (other : e ≠ .closing)
    (closed : count .closing h ≤ count .beginning h) (rate : Nat) (nominal : Span) :
    shown rate nominal (h ++ [(now, r)]) = shown rate nominal h := by
  rw [shown, closedBursts_concat_of_ne deed other closed, shown]

theorem shown_concat_of_eq {burst : Burst} (deed : r.deed = .closing) (within : Within p.rate 0 0 h)
    (current : Current p h burst) (index : burst.index = count .closing h)
    (sent : burst.sent = p.rate) :
    shown p.rate p.nominal (h ++ [(now, r)]) = shown p.rate p.nominal h ++ [burst.closedAt now] := by
  have closed : count .closing h ≤ count .beginning h := Nat.le.intro within.closed.symm
  rw [shown, closedBursts_concat_of_eq deed within.closed current, List.mapIdx_concat, ← shown,
    length_closedBursts closed, Burst.whole, ← index, ← sent, ← current.nominal]
  rfl

theorem getElem?_shown {rate i : Nat} {nominal : Span} {b : Burst}
    (there : (shown rate nominal h)[i]? = some b) :
    b.index = i ∧ b.sent = rate ∧ b.nominal = nominal ∧
      (moments .beginning h)[i]? = some b.started ∧
      (moments .closing h)[i]? = some (b.started + b.elapsed) := by
  rw [shown, List.getElem?_mapIdx, Option.map_eq_some_iff] at there
  obtain ⟨⟨start, done⟩, there, rfl⟩ := there
  obtain ⟨began, through⟩ := List.getElem?_zip_eq_some.mp there
  have end_eq : start + (done - start) = done := by grind
  exact ⟨rfl, rfl, rfl, began, through.trans (congrArg some end_eq.symm)⟩

end Shown

/-- What a run has shown agrees with what it did, and a burst under way is on the way to being shown. -/
structure Shows (p : Pacer) (size : Nat) (h : History Run) (r : Run) : Prop where
  historySize : r.pacer.historySize = size
  observed : r.observed.toList = shown p.rate p.nominal h
  history : r.pacer.stats.history = (shown p.rate p.nominal h).rtake size
  current : match r.phase with
    | .sending burst left => burst.index = count .closing h ∧ burst.sent + left = p.rate
    | .inFlight burst left _ _ => burst.index = count .closing h ∧ burst.sent + left + 1 = p.rate
    | _ => True

/-- What the observer answered has been done: a stop that it asked for is noted, and an error ended the
run with the burst at which it was raised. -/
structure Heeds (r : Run) : Prop where
  stop : ∀ b ∈ r.observed.toList, (r.observer b).stop = true → r.stop = true
  fault : ∀ b ∈ r.observed.toList, ∀ fault, (r.observer b).fault = some fault →
    r.phase = .ended (some fault) ∧ r.observed.toList.getLast? = some b

section Step

variable {p : Pacer} {size : Nat} {h : History Run} {r next : Run} {now : Time}

theorem Shows.sending {burst : Burst} {left : Nat} (shows : r.Shows p size h)
    (sending : r.phase = .sending burst left) :
    burst.index = count .closing h ∧ burst.sent + left = p.rate := by
  have current := shows.current
  rw [sending] at current
  exact current

theorem Shows.inFlight {burst : Burst} {left : Nat} {flight : Flight} {due : Time}
    (shows : r.Shows p size h) (underWay : r.phase = .inFlight burst left flight due) :
    burst.index = count .closing h ∧ burst.sent + left + 1 = p.rate := by
  have current := shows.current
  rw [underWay] at current
  exact current

/-- A burst is shown in the place that its number says. -/
theorem Shows.index_eq (shows : r.Shows p size h) {i : Nat} {b : Burst}
    (there : r.observed.toList[i]? = some b) : b.index = i := by
  rw [shows.observed] at there
  exact (getElem?_shown there).1

theorem Shows.length_observed (shows : r.Shows p size h) (stands : r.Stands p h) :
    r.observed.toList.length = count .closing h := by
  rw [shows.observed, shown, List.length_mapIdx]
  exact length_closedBursts stands.beyond.closed

theorem Shows.index_lt (shows : r.Shows p size h) (stands : r.Stands p h) {b : Burst}
    (member : b ∈ r.observed.toList ∨ b ∈ r.pacer.stats.history) : b.index < count .closing h := by
  have seen : b ∈ r.observed.toList := by
    obtain member | member := member
    · exact member
    · rw [shows.history, ← shows.observed] at member
      exact List.mem_of_mem_drop member
  obtain ⟨i, there⟩ := List.mem_iff_getElem?.mp seen
  rw [shows.index_eq there, ← shows.length_observed stands]
  exact (List.getElem?_eq_some_iff.mp there).1

/-- What is not the end of a burst shows nothing. -/
theorem Shows.keep {e : Deed} (shows : r.Shows p size h) (stands : r.Stands p h) (deed : r.deed = e)
    (other : e ≠ .closing) (now : Time) :
    r.pacer.historySize = size ∧ r.observed.toList = shown p.rate p.nominal (h ++ [(now, r)]) ∧
      r.pacer.stats.history = (shown p.rate p.nominal (h ++ [(now, r)])).rtake size ∧
      count .closing (h ++ [(now, r)]) = count .closing h := by
  rw [shown_concat_of_ne deed other stands.beyond.closed]
  exact ⟨shows.historySize, shows.observed, shows.history, count_concat_of_ne deed other h now⟩

/-- The end of a burst shows the burst. -/
theorem Shows.close {burst : Burst} (shows : r.Shows p size h) (stands : r.Stands p h)
    (sent : r.phase = .sending burst 0) (now : Time) :
    (r.completed (burst.closedAt now)).pacer.historySize = size ∧
      (r.completed (burst.closedAt now)).observed.toList =
        shown p.rate p.nominal (h ++ [(now, r)]) ∧
      (r.completed (burst.closedAt now)).pacer.stats.history =
        (shown p.rate p.nominal (h ++ [(now, r)])).rtake size := by
  obtain ⟨within, current⟩ := stands.sending sent
  obtain ⟨index, whole⟩ := shows.sending sent
  have more : shown p.rate p.nominal (h ++ [(now, r)]) =
      shown p.rate p.nominal h ++ [burst.closedAt now] :=
    shown_concat_of_eq (deed_of_closing sent) within current index whole
  refine ⟨shows.historySize, ?_, ?_⟩
  · rw [more, ← shows.observed]
    exact Array.toList_push
  · rw [more, ← Pacer.remember_rtake, ← shows.history, ← shows.historySize]
    rfl

theorem Shows.act (shows : r.Shows p size h) (stands : r.Stands p h)
    (unfailed : r.pacer.stats.failure = none) (counted : r.pacer.stats.bursts = count .closing h)
    (move : Move now r next) : next.Shows p size (h ++ [(now, r)]) := by
  cases move with
  | leave looking stop =>
    obtain ⟨historySize, observed, history, -⟩ :=
      shows.keep stands (deed_of_leaving looking stop) (by decide) now
    exact ⟨historySize, observed, history, trivial⟩
  | begin looking stop =>
    obtain ⟨historySize, observed, history, closed⟩ :=
      shows.keep stands (deed_of_beginning looking stop) (by decide) now
    refine ⟨historySize, observed, history, ?_, ?_⟩
    · rw [closed]
      exact counted
    · exact (Nat.zero_add _).trans stands.rate
  | launch sending =>
    obtain ⟨historySize, observed, history, closed⟩ :=
      shows.keep stands (deed_of_launching sending) (by decide) now
    refine ⟨historySize, observed, history, ?_⟩
    rw [closed]
    exact shows.sending sending
  | land underWay =>
    obtain ⟨historySize, observed, history, closed⟩ :=
      shows.keep stands (deed_of_landing underWay) (by decide) now
    obtain ⟨index, whole⟩ := shows.inFlight underWay
    refine ⟨historySize, observed, history, ?_, ?_⟩
    · rw [closed]
      exact index
    · dsimp only
      omega
  | fail underWay | breakOff underWay =>
    obtain ⟨historySize, observed, history, -⟩ :=
      shows.keep stands (deed_of_landing underWay) (by decide) now
    exact ⟨historySize, observed, history, trivial⟩
  | relapse _ failed =>
    rw [unfailed] at failed
    cases failed
  | object sent | suffice sent | rest sent =>
    obtain ⟨historySize, observed, history⟩ := shows.close stands sent now
    exact ⟨historySize, observed, history, trivial⟩
  | look resting =>
    obtain ⟨historySize, observed, history, -⟩ :=
      shows.keep stands (deed_of_looking resting) (by decide) now
    exact ⟨historySize, observed, history, trivial⟩

theorem Shows.take (shows : r.Shows p size h) (now : Time) (input : Input) :
    (r.take now input).1.Shows p size h := by
  obtain ⟨historySize, observed, history, current⟩ := id shows
  obtain same | same | ⟨-, same⟩ := r.take_eq now input <;> rw [same]
  · exact shows
  · exact ⟨historySize, observed, history, current⟩
  · exact ⟨historySize, observed, history, trivial⟩

/-- While a run goes on, its observer has raised no error. -/
theorem Heeds.silent (heeds : r.Heeds) (going : r.isOver = false) :
    ∀ b ∈ r.observed.toList, (r.observer b).fault = none := by
  intro b member
  cases raised : (r.observer b).fault with
  | none => rfl
  | some fault =>
    rw [isOver, (heeds.fault b member fault raised).1] at going
    cases going

/-- The observer is called with a burst, and what it answers is done. -/
theorem Heeds.completed {burst : Burst} (heeds : r.Heeds) (going : r.isOver = false) :
    (∀ b ∈ (r.completed burst).observed.toList, (r.observer b).stop = true →
      (r.completed burst).stop = true) ∧
    ∀ b ∈ (r.completed burst).observed.toList, ∀ fault, (r.observer b).fault = some fault →
      (r.observer burst).fault = some fault ∧
        (r.completed burst).observed.toList.getLast? = some b := by
  have silent := heeds.silent going
  simp only [Run.completed, Array.toList_push, List.mem_append, List.mem_singleton,
    List.getLast?_concat, Bool.or_eq_true]
  constructor
  · rintro b (before | rfl) asked
    · exact .inl (heeds.stop b before asked)
    · exact .inr asked
  · rintro b (before | rfl) fault raised
    · rw [silent b before] at raised
      cases raised
    · exact ⟨raised, rfl⟩

theorem Heeds.act (heeds : r.Heeds) (going : r.isOver = false) (move : Move now r next) :
    next.Heeds := by
  have silent := heeds.silent going
  have never {b : Burst} {fault : Fault} (member : b ∈ r.observed.toList)
      (raised : (r.observer b).fault = some fault) : False := by
    rw [silent b member] at raised
    cases raised
  cases move with
  | leave | begin | launch | land | fail | breakOff | relapse | look =>
    exact ⟨heeds.stop, fun b member fault raised => (never member raised).elim⟩
  | object _ _ raised =>
    obtain ⟨stops, faults⟩ := heeds.completed going
    refine ⟨stops, fun b member fault raised' => ?_⟩
    obtain ⟨same, last⟩ := faults b member fault raised'
    rw [raised, Option.some.injEq] at same
    exact ⟨by rw [same], last⟩
  | suffice _ _ calm | rest _ _ calm =>
    obtain ⟨stops, faults⟩ := heeds.completed going
    refine ⟨stops, fun b member fault raised => ?_⟩
    obtain ⟨same, -⟩ := faults b member fault raised
    rw [calm] at same
    cases same

theorem Heeds.take (heeds : r.Heeds) (now : Time) (input : Input) :
    (r.take now input).1.Heeds := by
  obtain same | same | ⟨going, same⟩ := r.take_eq now input <;> rw [same]
  · exact heeds
  · exact ⟨fun _ _ _ => rfl, heeds.fault⟩
  · refine ⟨heeds.stop, fun b member fault raised => ?_⟩
    have raised' : (r.observer b).fault = some fault := raised
    rw [heeds.silent going b member] at raised'
    cases raised'

end Step

section Course

variable {p : Pacer} {size : Nat} {h : History Run} {r : Run} {began now : Time} {carrier : Carrier}
  {stop : Bool} {maxBursts : Option Int} {observer : Burst → Reaction}

theorem shows_of_course (unused : p.stats = {}) (sized : p.historySize = size)
    (course : machine.Course began (initial p carrier stop maxBursts observer) h now r) :
    r.Shows p size h := by
  have unfailed : p.stats.failure = none := by rw [unused]
  induction course with
  | start =>
    have none : p.stats.history = [] := by rw [unused]
    exact ⟨sized, rfl, none.trans (List.rtake_nil size).symm, trivial⟩
  | act before wakes ih =>
    have going := going_of_moment? wakes
    have balanced := balanced_of_course unfailed before
    have counted := balanced.entries.bursts
    rw [unused, Nat.zero_add] at counted
    exact ih.act (stands_of_course before) (balanced.underway going).unfailed counted
      (move_act going _)
  | @take _ _ moment _ input _ _ _ ih => exact ih.take moment input

theorem heeds_of_course
    (course : machine.Course began (initial p carrier stop maxBursts observer) h now r) :
    r.Heeds := by
  induction course with
  | start => exact ⟨fun _ member => (List.not_mem_nil member).elim, fun _ member =>
      (List.not_mem_nil member).elim⟩
  | act before wakes ih =>
    have going := going_of_moment? wakes
    exact ih.act going (move_act going _)
  | @take _ _ moment _ input _ _ _ ih => exact ih.take moment input

/-- What the observer and the history of a run show of its bursts. -/
structure IsWatched (rate : Nat) (nominal : Span) (size : Nat) (observer : Burst → Reaction)
    (h : History Run) (r : Run) : Prop where
  /-- The observer was called as often as a burst was completed, -/
  called : r.observed.toList.length = r.pacer.stats.bursts ∧
    r.pacer.stats.bursts = count .closing h
  /-- with the bursts in their order, each with all its transactions, -/
  observed : ∀ (i : Nat) (b : Burst), r.observed.toList[i]? = some b →
    b.index = i ∧ b.sent = rate ∧ b.nominal = nominal ∧
      (moments .beginning h)[i]? = some b.started ∧
      (moments .closing h)[i]? = some (b.started + b.elapsed)
  /-- and what it answered was done. -/
  heeded : ∀ b ∈ r.observed.toList, ((observer b).stop = true → r.stop = true) ∧
    ∀ fault, (observer b).fault = some fault →
      r.phase = .ended (some fault) ∧ b.index + 1 = r.pacer.stats.bursts
  history : r.pacer.stats.history = r.observed.toList.rtake (min size r.pacer.stats.bursts)
  /-- The burst that a failed send cut off is the one that began last, and neither of them has it. -/
  cutOff : r.phase = .ended none → r.pacer.status = .failed →
    count .beginning h = r.pacer.stats.bursts + 1 ∧
      ∀ b, b ∈ r.observed.toList ∨ b ∈ r.pacer.stats.history → b.index < r.pacer.stats.bursts

/-- At every point of a fresh run the observer has seen the bursts that were completed, and the history
holds the last of them. -/
theorem isWatched_of_course {rate : Nat} {nominal : Span} {g : Payload.Generator}
    (built : Pacer.ofRate? rate nominal size g = .ok p)
    (course : machine.Course began (initial p carrier stop maxBursts observer) h now r) :
    r.IsWatched rate nominal size observer h := by
  obtain ⟨pace, same, rfl⟩ := Pacer.eq_of_ofRate? built
  obtain rfl := Int.ofNat_inj.mp same
  have stands := stands_of_course course
  have balanced := balanced_of_course rfl course
  have shows : r.Shows _ size h := shows_of_course rfl rfl course
  have watcher : r.observer = observer := observer_of_course course
  have bursts : r.pacer.stats.bursts = count .closing h :=
    balanced.entries.bursts.trans (Nat.zero_add _)
  have length := shows.length_observed stands
  obtain ⟨stops, faults⟩ := heeds_of_course course
  rw [watcher] at stops faults
  rw [← bursts] at length
  refine ⟨⟨length, bursts⟩, fun i b there => ?_, fun b member => ⟨stops b member, ?_⟩, ?_, ?_⟩
  · rw [shows.observed] at there
    exact getElem?_shown there
  · intro fault raised
    obtain ⟨ended, last⟩ := faults b member fault raised
    refine ⟨ended, ?_⟩
    rw [List.getLast?_eq_getElem?] at last
    have place := shows.index_eq last
    have nonempty := List.length_pos_of_mem member
    omega
  · rw [shows.history, ← shows.observed, ← length, rtake_min_length]
  · intro returned failed
    rw [bursts]
    exact ⟨balanced.begun_of_failed returned failed, fun b => shows.index_lt stands⟩

end Course

/-- A filler in each burst, of which the fifth cannot be sent, and a history of two bursts. -/
def cutInFifth : Run :=
  initial { rate := 1, nominal := .ms 7, historySize := 2, generator := shortFillers }
    (.bare (fun n => ⟨3, if n = 4 then some (.transport "gone") else none, false⟩) 0 #[])
    false none fun _ => {}

/-- Four bursts are seen, of which the history has the last two. -/
theorem isWatched_cutInFifth :
    let (h, _, r) := machine.alone 23 0 cutInFifth
    r.pacer.status = .failed ∧ count .beginning h = 5 ∧
      r.observed.toList.map Burst.index = [0, 1, 2, 3] ∧
      r.pacer.stats.history = [⟨2, 14, .ms 7, 3, 1⟩, ⟨3, 21, .ms 7, 3, 1⟩] ∧
      r.IsWatched 1 (.ms 7) 2 (fun _ => {}) h :=
  ⟨by decide +kernel, by decide +kernel, by decide +kernel, by decide +kernel,
    isWatched_of_course (show Pacer.ofRate? (1 : Nat) (.ms 7) (2 : Nat) _ = .ok _ from rfl)
      (machine.alone_course 23 0 cutInFifth)⟩

end Run

end BurstLoad
