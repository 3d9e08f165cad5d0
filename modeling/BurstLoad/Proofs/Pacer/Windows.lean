import BurstLoad.Proofs.Pacer.History

/-! When the bursts of a run begin. Each begins a span after the one before it, or when that one is
through if this is later, so that a burst that took too long puts off all that follow and no window
holds more than one burst. -/

set_option autoImplicit false

namespace BurstLoad.Run

open Machine (History)

/-- When a burst was through: as its last send landed, or as it began if it has none. -/
def doneAt? (rate : Nat) (h : History Run) (index : Nat) : Option Time :=
  if rate = 0 then (moments .beginning h)[index]?
  else (moments .landing h)[rate * (index + 1) - 1]?

theorem doneAt?_append {rate index : Nat} {h : History Run} {done : Time}
    (known : doneAt? rate h index = some done) (more : History Run) :
    doneAt? rate (h ++ more) index = some done := by
  unfold doneAt? at known ⊢
  split
  · next none =>
    rw [if_pos none] at known
    exact moments_getElem?_append known more
  · next some =>
    rw [if_neg some] at known
    exact moments_getElem?_append known more

/-- Between two sends of a burst no time passes, nor before the first one or after the last. -/
def IsPrompt (rate left : Nat) (h : History Run) (now : Time) : Prop :=
  left = rate ∧ (moments .beginning h).getLast? = some now ∨
    left < rate ∧ (moments .landing h).getLast? = some now

theorem doneAt?_of_isPrompt {rate : Nat} {h : History Run} {now : Time} (within : Within rate 0 0 h)
    (prompt : IsPrompt rate 0 h now) : doneAt? rate h (count .closing h) = some now := by
  obtain ⟨closed, launched, landed, -⟩ := within
  unfold doneAt?
  obtain ⟨none, began⟩ | ⟨some, through⟩ := prompt
  · rw [if_pos none.symm]
    exact moments_getElem?_of_getLast? began closed
  · rw [if_neg (Nat.ne_of_gt some), Nat.mul_succ]
    exact moments_getElem?_of_getLast? through (by omega)

/-- The window after a burst opens: the burst is through, and its own window is over. -/
def Opens (p : Pacer) (h : History Run) (index : Nat) (now : Time) : Prop :=
  ∃ start done due, (moments .beginning h)[index]? = some start ∧
    doneAt? p.rate h index = some done ∧ p.nominal.after start = some due ∧ now = due.later done

theorem Opens.append {p : Pacer} {h : History Run} {index : Nat} {now : Time}
    (opens : Opens p h index now) (more : History Run) : Opens p (h ++ more) index now := by
  obtain ⟨start, done, due, began, through, span, same⟩ := opens
  exact ⟨start, done, due, moments_getElem?_append began more, doneAt?_append through more, span,
    same⟩

/-- Each burst begins as its window opens, and each send belongs to a burst that began before it. -/
structure Windowed (p : Pacer) (h : History Run) : Prop where
  follows : ∀ index next, (moments .beginning h)[index + 1]? = some next → Opens p h index next
  launched : ∀ place time, (moments .launching h)[place]? = some time →
    ∃ start, (moments .beginning h)[place / p.rate]? = some start ∧ start ≤ time

/-- What a run waits for, and how long it has been where it is. -/
structure Clocked (p : Pacer) (h : History Run) (now : Time) (r : Run) : Prop where
  windowed : Windowed p h
  place : match r.phase with
    | .looking => r.stop = true ∨ ∀ index, count .closing h = index + 1 → Opens p h index now
    | .sending _ left => IsPrompt p.rate left h now
    | .resting due => r.stop = true ∨ ∀ index time, count .closing h = index + 1 →
      due = some time → Opens p h index (time.later now)
    | _ => True

section Step

variable {p : Pacer} {h : History Run} {r next : Run} {now due : Time}

theorem Windowed.concat (windowed : Windowed p h)
    (begins : r.deed = .beginning → ∀ index, count .beginning h = index + 1 → Opens p h index now)
    (launches : r.deed = .launching →
      ∃ start, (moments .beginning h)[count .launching h / p.rate]? = some start ∧ start ≤ now) :
    Windowed p (h ++ [(now, r)]) := by
  constructor
  · intro index next begun
    obtain before | ⟨deed, last, rfl⟩ := moments_getElem?_concat begun
    · exact (windowed.follows index next before).append _
    · exact (begins deed index last.symm).append _
  · intro place time launched
    obtain before | ⟨deed, rfl, rfl⟩ := moments_getElem?_concat launched
    · obtain ⟨start, began, early⟩ := windowed.launched place time before
      exact ⟨start, moments_getElem?_append began _, early⟩
    · obtain ⟨start, began, early⟩ := launches deed
      exact ⟨start, moments_getElem?_append began _, early⟩

theorem Windowed.idle {e : Deed} (windowed : Windowed p h) (deed : r.deed = e)
    (begins : e ≠ .beginning) (launches : e ≠ .launching) : Windowed p (h ++ [(now, r)]) := by
  subst deed
  exact windowed.concat (fun deed => absurd deed begins) fun deed => absurd deed launches

theorem Clocked.looking {index : Nat} (clocked : r.Clocked p h now) (looking : r.phase = .looking)
    (stop : r.stop = false) (closed : count .closing h = index + 1) : Opens p h index now := by
  have place := clocked.place
  rw [looking, stop] at place
  exact place.resolve_left (by decide) index closed

theorem Clocked.sending {burst : Burst} {left : Nat} (clocked : r.Clocked p h now)
    (sending : r.phase = .sending burst left) : IsPrompt p.rate left h now := by
  have place := clocked.place
  rw [sending] at place
  exact place

theorem Clocked.resting {index : Nat} {time : Time} (clocked : r.Clocked p h now)
    (resting : r.phase = .resting (some time)) (stop : r.stop = false)
    (closed : count .closing h = index + 1) : Opens p h index (time.later now) := by
  have place := clocked.place
  rw [resting, stop] at place
  exact place.resolve_left (by decide) index time closed rfl

/-- While it waits, a run stays where it is. -/
theorem Clocked.wait {moment : Time} (clocked : r.Clocked p h now) (low : now ≤ moment)
    (high : ∀ due, (machine.wake r).moment? now = some due → moment ≤ due) :
    r.Clocked p h moment := by
  refine ⟨clocked.windowed, ?_⟩
  split
  · next looking =>
    obtain rfl := Rat.le_antisymm low (high now (moment?_of_looking looking))
    by_cases stop : r.stop = true
    · exact .inl stop
    · exact .inr fun index closed => clocked.looking looking (Bool.eq_false_iff.mpr stop) closed
  · next sending =>
    obtain rfl := Rat.le_antisymm low (high now (moment?_of_sending sending))
    exact clocked.sending sending
  · next resting =>
    by_cases stop : r.stop = true
    · exact .inl stop
    · refine .inr ?_
      intro index time closed same
      subst same
      rw [moment?_of_resting resting, if_neg stop] at high
      rw [Time.later_comm, Time.later_later low (high _ rfl), Time.later_comm]
      exact clocked.resting resting (Bool.eq_false_iff.mpr stop) closed
  · trivial

/-- Each act comes in its time. -/
theorem Clocked.act (clocked : r.Clocked p h now) (stands : r.Stands p h)
    (past : ∀ act ∈ h, act.1 ≤ now) (wakes : (machine.wake r).moment? now = some due)
    (move : Move due r next) : next.Clocked p (h ++ [(due, r)]) due := by
  have windowed := clocked.windowed
  cases move with
  | leave looking stop =>
    exact ⟨windowed.idle (deed_of_leaving looking stop) (by decide) (by decide), trivial⟩
  | begin looking stop =>
    have deed := deed_of_beginning looking stop
    have between := stands.between looking
    rw [moment?_of_looking looking] at wakes
    cases wakes
    refine ⟨windowed.concat ?_ (by simp [deed]), .inl ⟨stands.rate, ?_⟩⟩
    · intro _ index begun
      rw [between.closed] at begun
      exact clocked.looking looking stop begun
    · rw [moments_concat_of_eq deed, List.getLast?_concat]
  | launch sending =>
    have deed := deed_of_launching sending
    obtain ⟨within, current⟩ := stands.sending sending
    refine ⟨windowed.concat (by simp [deed]) ?_, trivial⟩
    intro _
    obtain ⟨closed, launched, -, room⟩ := within
    have began := moments_getElem?_of_getLast? current.started closed
    obtain ⟨act, member, same⟩ := mem_of_moments (List.mem_of_getElem? began)
    refine ⟨_, ?_, Rat.le_trans (past act member) (Wake.le_of_moment? wakes)⟩
    rw [same, ← began, div_rate room (by rw [Nat.mul_succ]; omega)]
  | @land burst left _ _ _ underWay =>
    have deed := deed_of_landing underWay
    have within := (stands.inFlight underWay).1
    refine ⟨windowed.idle deed (by decide) (by decide), .inr ⟨within.room, ?_⟩⟩
    rw [moments_concat_of_eq deed, List.getLast?_concat]
  | fail underWay | breakOff underWay =>
    exact ⟨windowed.idle (deed_of_landing underWay) (by decide) (by decide), trivial⟩
  | relapse sent | object sent | suffice sent =>
    exact ⟨windowed.idle (deed_of_closing sent) (by decide) (by decide), trivial⟩
  | @rest burst sent =>
    have deed := deed_of_closing sent
    obtain ⟨within, current⟩ := stands.sending sent
    have prompt := clocked.sending sent
    rw [moment?_of_sending sent] at wakes
    cases wakes
    refine ⟨windowed.idle deed (by decide) (by decide), .inr ?_⟩
    intro index time closed span
    rw [count_concat_of_eq deed] at closed
    obtain rfl := Nat.succ.inj closed
    refine Opens.append ⟨burst.started, now, time, ?_, doneAt?_of_isPrompt within prompt, ?_, rfl⟩ _
    · exact moments_getElem?_of_getLast? current.started within.closed
    · rw [← span, stands.nominal]
  | look resting =>
    have deed := deed_of_looking resting
    refine ⟨windowed.idle deed (by decide) (by decide), ?_⟩
    rw [moment?_of_resting resting] at wakes
    by_cases stop : r.stop = true
    · exact .inl stop
    · refine .inr ?_
      intro index closed
      rw [if_neg stop] at wakes
      obtain ⟨time, rfl, rfl⟩ := Option.map_eq_some_iff.mp wakes
      rw [count_concat_of_ne deed (by decide)] at closed
      rw [Time.later_comm]
      exact (clocked.resting resting (Bool.eq_false_iff.mpr stop) closed).append _

end Step

theorem Clocked.take {p : Pacer} {h : History Run} {r : Run} {moment : Time}
    (clocked : r.Clocked p h moment) (input : Input) :
    (r.take moment input).1.Clocked p h moment := by
  obtain same | same | ⟨-, same⟩ := r.take_eq moment input
  · rw [same]
    exact clocked
  · rw [same]
    refine ⟨clocked.windowed, ?_⟩
    dsimp only
    split
    · exact .inl rfl
    · next sending => exact clocked.sending sending
    · exact .inl rfl
    · trivial
  · rw [same]
    exact ⟨clocked.windowed, trivial⟩

/-- The list has at most so many entries of a kind if none of that kind stands further on. -/
theorem countP_le_of_places {α : Type} {l : List α} {kind : α → Bool} {bound : Nat}
    (places : ∀ place x, l[place]? = some x → kind x = true → place < bound) :
    l.countP kind ≤ bound := by
  have none : (l.drop bound).countP kind = 0 := by
    rw [List.countP_eq_zero]
    intro x member
    obtain ⟨place, known⟩ := List.mem_iff_getElem?.mp member
    rw [List.getElem?_drop] at known
    intro of_kind
    have := places _ x known of_kind
    omega
  calc
    l.countP kind = (l.take bound).countP kind + (l.drop bound).countP kind := by
      rw [← List.countP_append, List.take_append_drop]
    _ ≤ (l.take bound).length := by
      rw [none]
      exact List.countP_le_length
    _ ≤ bound := List.length_take_le bound l

section Course

variable {p : Pacer} {h : History Run} {r : Run} {began now : Time} {carrier : Carrier}
  {stop : Bool} {maxBursts : Option Int} {observer : Burst → Reaction}

theorem clocked_of_course
    (course : machine.Course began (initial p carrier stop maxBursts observer) h now r) :
    r.Clocked p h now := by
  induction course with
  | start => exact ⟨⟨by simp, by simp⟩, .inr (by simp)⟩
  | act before wakes ih =>
    exact ih.act (stands_of_course before) (fun act member => (before.le_now.2 act member).2) wakes
      (move_act (going_of_moment? wakes) _)
  | take input _ low high ih => exact (ih.wait low high).take input

variable {d : Deed} {i j : Nat} {s t : Time}

theorem rate_pos_of_course
    (course : machine.Course began (initial p carrier stop maxBursts observer) h now r)
    (launched : (moments .launching h)[i]? = some s) : 0 < p.rate := by
  have room := (stands_of_course course).beyond.room
  have inside : i < count .launching h := (List.getElem?_eq_some_iff.mp launched).1
  apply Nat.pos_of_ne_zero
  intro none
  rw [none, Nat.zero_mul] at room
  omega

/-- When a burst is through, its sends and all sends before them landed. -/
theorem landed_of_doneAt? {first : Run} (course : machine.Course began first h now r) {rate : Nat}
    (through : doneAt? rate h i = some s) (inside : j < rate * (i + 1)) :
    ∃ time, (moments .landing h)[j]? = some time ∧ time ≤ s := by
  have some : rate ≠ 0 := by
    intro none
    rw [none, Nat.zero_mul] at inside
    cases inside
  rw [doneAt?, if_neg some] at through
  obtain ⟨length, -⟩ := List.getElem?_eq_some_iff.mp through
  have known := List.getElem?_eq_getElem (l := moments .landing h) (i := j) (by omega)
  exact ⟨_, known, moments_mono course (by omega) known through⟩

/-- What bursts keep to that have a window of a span each. -/
structure KeepsWindows (rate : Nat) (span : Time) (h : History Run) : Prop where
  follows : ∀ index start next, (moments .beginning h)[index]? = some start →
    (moments .beginning h)[index + 1]? = some next →
      ∃ done, doneAt? rate h index = some done ∧ next = (start + span).later done
  later : ∀ index start next, (moments .beginning h)[index]? = some start →
    (moments .beginning h)[index + 1]? = some next → start + span ≤ next
  -- as a burst begins, the sends of all before it have landed, and none of those after it has begun
  apart : ∀ index next, (moments .beginning h)[index + 1]? = some next →
    (∀ place < rate * (index + 1), ∃ time, (moments .landing h)[place]? = some time ∧ time ≤ next) ∧
      ∀ place time, rate * (index + 1) ≤ place → (moments .launching h)[place]? = some time →
        next ≤ time
  bounded : ∀ first time, (moments .beginning h)[0]? = some first → first ≤ time →
    ((moments .launching h).countP (· ≤ time) : Int) ≤
      rate * (((time - first) / span).floor + 1)

section Windows

variable {span : Time} (nominal : p.nominal = .ms span)
  (course : machine.Course began (initial p carrier stop maxBursts observer) h now r)

include nominal course

theorem start_of_course {index : Nat} {start next : Time}
    (began : (moments .beginning h)[index]? = some start)
    (onward : (moments .beginning h)[index + 1]? = some next) :
    ∃ done, doneAt? p.rate h index = some done ∧ next = (start + span).later done := by
  obtain ⟨_, done, due, same, through, after, rfl⟩ :=
    (clocked_of_course course).windowed.follows index next onward
  rw [began] at same
  cases same
  rw [nominal] at after
  cases after
  exact ⟨done, through, rfl⟩

/-- A burst begins so many spans after the first one or later. -/
theorem anchored_of_course {index : Nat} {first start : Time}
    (origin : (moments .beginning h)[0]? = some first)
    (began : (moments .beginning h)[index]? = some start) : first + index * span ≤ start := by
  induction index generalizing start with
  | zero =>
    rw [origin] at began
    cases began
    grind
  | succ index ih =>
    obtain ⟨before, -, -, known, -⟩ :=
      (clocked_of_course course).windowed.follows index start began
    obtain ⟨done, -, rfl⟩ := start_of_course nominal course known began
    have anchored := ih known
    have onward := (before + span).le_later_left done
    rw [Rat.natCast_add]
    grind

/-- What is sent up to a moment is sent in the windows that began up to it. -/
theorem launched_of_course (positive : 0 < span) {first time bound : Time} {place : Nat}
    (origin : (moments .beginning h)[0]? = some first) (early : time ≤ bound)
    (launched : (moments .launching h)[place]? = some time) :
    place < p.rate * (((bound - first) / span).floor.toNat + 1) := by
  obtain ⟨start, known, le⟩ := (clocked_of_course course).windowed.launched place time launched
  have anchored := anchored_of_course nominal course origin known
  have whole : ((place / p.rate : Nat) : Int) ≤ ((bound - first) / span).floor := by
    rw [Rat.le_floor_iff, Rat.intCast_natCast, ← Rat.not_lt, Rat.div_lt_iff positive]
    grind
  rw [Nat.mul_comm, ← Nat.div_lt_iff_lt_mul (rate_pos_of_course course launched)]
  omega

theorem bounded_of_course (positive : 0 < span) {first bound : Time}
    (origin : (moments .beginning h)[0]? = some first) (after : first ≤ bound) :
    ((moments .launching h).countP (· ≤ bound) : Int) ≤
      p.rate * (((bound - first) / span).floor + 1) := by
  have counted : (moments .launching h).countP (· ≤ bound) ≤
      p.rate * (((bound - first) / span).floor.toNat + 1) := by
    apply countP_le_of_places
    intro place time launched early
    exact launched_of_course nominal course positive origin (by simpa using early) launched
  have nonneg : 0 ≤ ((bound - first) / span).floor := by
    rw [Rat.le_floor_iff, ← Rat.not_lt, Rat.div_lt_iff positive]
    grind
  rw [← Int.toNat_of_nonneg nonneg]
  exact_mod_cast counted

/-- The windows of a run, whatever the sends take and whatever comes to it. -/
theorem windows_of_course (positive : 0 < span) : KeepsWindows p.rate span h := by
  refine ⟨fun index start next => start_of_course nominal course, ?_, ?_, ?_⟩
  · intro index start next began onward
    obtain ⟨done, -, rfl⟩ := start_of_course nominal course began onward
    exact (start + span).le_later_left done
  · intro index next onward
    have windowed := (clocked_of_course course).windowed
    constructor
    · intro place inside
      obtain ⟨start, done, due, -, through, -, rfl⟩ := windowed.follows index next onward
      obtain ⟨time, landed, early⟩ := landed_of_doneAt? course through inside
      exact ⟨time, landed, Rat.le_trans early (due.le_later_right done)⟩
    · intro place time outside launched
      obtain ⟨start, known, early⟩ := windowed.launched place time launched
      have some := rate_pos_of_course course launched
      rw [Nat.mul_comm, ← Nat.le_div_iff_mul_le some] at outside
      exact Rat.le_trans (moments_mono course outside onward known) early
  · intro first bound origin after
    exact bounded_of_course nominal course positive origin after

end Windows

end Course

/-- Two fillers in each burst of ten milliseconds; the second send takes longer than that. -/
def slowAtFirst : Run :=
  initial { rate := 2, nominal := .ms 10, generator := shortFillers }
    (.bare (fun n => ⟨if n = 1 then 25 else 1, none, false⟩) 0 #[]) false none fun _ => {}

/-- After the burst that took too long the next one begins at once, and the one after that a span
later. -/
theorem windows_slowAtFirst :
    let (h, _, _) := machine.alone 20 0 slowAtFirst
    moments .beginning h = [0, 26, 36] ∧ KeepsWindows 2 10 h :=
  ⟨by decide +kernel,
    windows_of_course rfl (machine.alone_course 20 0 slowAtFirst) (by decide)⟩

end BurstLoad.Run
