import BurstLoad.Proofs.Pacer.History

/-! How a limit on bursts binds a run. It is looked at after each burst but not before the first: a run
that begins below the limit goes no further than the limit, and one that has reached it when it begins
sends one burst more, unless it is asked to stop before it does anything. -/

set_option autoImplicit false

namespace BurstLoad.Run

open Machine (History)

/-- How many bursts a run with a limit has counted when it has begun so many. -/
structure Rationed (p : Pacer) (n : Int) (begun : Nat) (r : Run) : Prop where
  limit : r.maxBursts = some n
  least : p.stats.bursts ≤ r.pacer.stats.bursts
  most : r.pacer.stats.bursts ≤ p.stats.bursts + begun
  -- the first burst is begun whatever the limit is
  room : begun ≤ 1 ∨ (p.stats.bursts + begun : Nat) ≤ n
  place : match r.phase with
    | .looking | .resting _ => r.pacer.stats.bursts = p.stats.bursts + begun ∧
      (begun = 0 ∨ r.pacer.stats.bursts < n)
    | .sending _ _ | .inFlight _ _ _ _ => r.pacer.stats.bursts + 1 = p.stats.bursts + begun
    | .ended none => r.pacer.status = .stopped → r.pacer.stats.bursts = p.stats.bursts + begun
    | .ended (some _) | .cancelled => True

section Step

variable {p : Pacer} {n : Int} {begun : Nat} {r next : Run} {now : Time}

theorem Rationed.looking (rationed : r.Rationed p n begun) (looking : r.phase = .looking) :
    r.pacer.stats.bursts = p.stats.bursts + begun ∧ (begun = 0 ∨ r.pacer.stats.bursts < n) := by
  have place := rationed.place
  rw [looking] at place
  exact place

theorem Rationed.resting {due : Option Time} (rationed : r.Rationed p n begun)
    (resting : r.phase = .resting due) :
    r.pacer.stats.bursts = p.stats.bursts + begun ∧ (begun = 0 ∨ r.pacer.stats.bursts < n) := by
  have place := rationed.place
  rw [resting] at place
  exact place

theorem Rationed.sending {burst : Burst} {left : Nat} (rationed : r.Rationed p n begun)
    (sending : r.phase = .sending burst left) :
    r.pacer.stats.bursts + 1 = p.stats.bursts + begun := by
  have place := rationed.place
  rw [sending] at place
  exact place

theorem Rationed.inFlight {burst : Burst} {left : Nat} {flight : Flight} {due : Time}
    (rationed : r.Rationed p n begun) (underWay : r.phase = .inFlight burst left flight due) :
    r.pacer.stats.bursts + 1 = p.stats.bursts + begun := by
  have place := rationed.place
  rw [underWay] at place
  exact place

/-- Only where it looks for a stop request can a run begin a burst, and only where it closes one does
it count one and look at the limit. -/
theorem Rationed.act (rationed : r.Rationed p n begun) (move : Move now r next) :
    next.Rationed p n (begun + if r.deed = .beginning then 1 else 0) := by
  obtain ⟨limit, least, most, room, -⟩ := id rationed
  cases move with
  | leave looking stop =>
    rw [deed_of_leaving looking stop]
    exact ⟨limit, least, most, room, fun _ => (rationed.looking looking).1⟩
  | begin looking stop =>
    rw [if_pos (deed_of_beginning looking stop)]
    obtain ⟨counted, below⟩ := rationed.looking looking
    exact ⟨limit, least, Nat.le_succ_of_le most, by omega, congrArg (· + 1) counted⟩
  | launch sending =>
    rw [deed_of_launching sending]
    exact ⟨limit, least, most, room, rationed.sending sending⟩
  | land underWay =>
    rw [deed_of_landing underWay]
    exact ⟨limit, least, most, room, rationed.inFlight underWay⟩
  | fail underWay =>
    rw [deed_of_landing underWay]
    exact ⟨limit, least, most, room, fun stopped => by cases stopped⟩
  | breakOff underWay =>
    rw [deed_of_landing underWay]
    exact ⟨limit, least, most, room, trivial⟩
  | relapse sent =>
    rw [deed_of_closing sent]
    exact ⟨limit, least, most, room, fun stopped => by cases stopped⟩
  | object sent =>
    rw [deed_of_closing sent]
    have counted := rationed.sending sent
    exact ⟨limit, Nat.le_succ_of_le least, Nat.le_of_eq counted, room, trivial⟩
  | suffice sent =>
    rw [deed_of_closing sent]
    have counted := rationed.sending sent
    exact ⟨limit, Nat.le_succ_of_le least, Nat.le_of_eq counted, room, fun _ => counted⟩
  | rest sent _ _ below =>
    rw [deed_of_closing sent]
    have counted := rationed.sending sent
    rw [limit, Pacer.reached, decide_eq_false_iff_not, Int.not_le] at below
    exact ⟨limit, Nat.le_succ_of_le least, Nat.le_of_eq counted, room, counted, .inr below⟩
  | look resting =>
    rw [deed_of_looking resting]
    exact ⟨limit, least, most, room, rationed.resting resting⟩

theorem Rationed.take (rationed : r.Rationed p n begun) (now : Time) (input : Input) :
    (r.take now input).1.Rationed p n begun := by
  obtain ⟨limit, least, most, room, place⟩ := id rationed
  obtain same | same | ⟨-, same⟩ := r.take_eq now input
  · rw [same]
    exact rationed
  · rw [same]
    exact ⟨limit, least, most, room, place⟩
  · rw [same]
    exact ⟨limit, least, most, room, trivial⟩

theorem isOver_take (finished : r.isOver = true) (now : Time) (input : Input) :
    (r.take now input).1.isOver = true := by
  obtain same | same | ⟨going, -⟩ := r.take_eq now input
  · rw [same]
    exact finished
  · rw [same]
    exact finished
  · rw [finished] at going
    cases going

end Step

/-- The first thing that a run does is to look for a stop request: with one it ends, without one it
begins a burst. -/
inductive Opened : History Run → Run → Prop where
  | idle {r : Run} : r.phase = .looking ∨ r.phase = .cancelled → Opened [] r
  | asked {h : History Run} {r : Run} {first : Time × Run} : first ∈ h.head? →
    first.2.stop = true → count .beginning h = 0 → r.isOver = true → Opened h r
  | begun {h : History Run} {r : Run} {first : Time × Run} : first ∈ h.head? →
    first.2.stop = false → 0 < count .beginning h → Opened h r

section Course

variable {p : Pacer} {n : Int} {h : History Run} {r : Run} {began now : Time} {carrier : Carrier}
  {stop : Bool} {maxBursts : Option Int} {observer : Burst → Reaction}

theorem Opened.act {next : Run} (opened : Opened h r) (going : r.isOver = false)
    (move : Move now r next) : Opened (h ++ [(now, r)]) next := by
  cases opened with
  | idle phase =>
    obtain looking | cancelled := phase
    · cases move with
      | leave _ asked =>
        exact .asked rfl asked (count_concat_of_ne (deed_of_leaving looking asked) (by decide) [] now)
          rfl
      | begin _ go =>
        have one := count_concat_of_eq (deed_of_beginning looking go) [] now
        exact .begun rfl go (by rw [one]; exact Nat.succ_pos _)
      | launch phase | land phase | fail phase | breakOff phase | relapse phase | object phase
      | suffice phase | rest phase | look phase =>
        rw [looking] at phase
        cases phase
    · rw [isOver, cancelled] at going
      cases going
  | asked _ _ _ finished =>
    rw [finished] at going
    cases going
  | begun first go some =>
    refine .begun ?_ go ?_
    · rw [List.head?_append, first]
      rfl
    · rw [count_concat]
      exact Nat.add_pos_left some _

theorem Opened.take (opened : Opened h r) (now : Time) (input : Input) :
    Opened h (r.take now input).1 := by
  cases opened with
  | idle phase =>
    obtain same | same | ⟨-, same⟩ := r.take_eq now input <;> rw [same]
    · exact .idle phase
    · exact .idle phase
    · exact .idle (.inr rfl)
  | asked first stop unsent finished => exact .asked first stop unsent (isOver_take finished now input)
  | begun first go some => exact .begun first go some

theorem opened_of_course
    (course : machine.Course began (initial p carrier stop maxBursts observer) h now r) :
    Opened h r := by
  induction course with
  | start => exact .idle (.inl rfl)
  | act _ wakes ih =>
    have going := going_of_moment? wakes
    exact ih.act going (move_act going _)
  | @take _ _ moment _ input _ _ _ ih => exact ih.take moment input

/-- No burst was begun exactly if the run was asked to stop before it did anything. -/
theorem Opened.count_eq_zero_iff (opened : Opened h r) :
    count .beginning h = 0 ↔ ∀ first ∈ h.head?, first.2.stop = true := by
  cases opened with
  | idle => simp
  | asked first stop unsent _ =>
    refine iff_of_true unsent fun other there => ?_
    obtain rfl := Option.mem_unique first there
    exact stop
  | begun first go some =>
    refine iff_of_false (Nat.ne_of_gt some) fun asked => ?_
    rw [asked _ first] at go
    cases go

theorem rationed_of_course
    (course : machine.Course began (initial p carrier stop (some n) observer) h now r) :
    r.Rationed p n (count .beginning h) := by
  induction course with
  | start => exact ⟨rfl, Nat.le_refl _, Nat.le_refl _, .inl (Nat.zero_le 1), rfl, .inl rfl⟩
  | act _ wakes ih =>
    rw [count_concat]
    exact ih.act (move_act (going_of_moment? wakes) _)
  | @take _ _ moment _ input _ _ _ ih => exact ih.take moment input

/-- The limit is not exceeded, and a run that has reached it when it begins sends nothing. -/
def KeepsLimit (p : Pacer) (n : Int) (h : History Run) (r : Run) : Prop :=
  (r.pacer.stats.bursts : Int) ≤ max n p.stats.bursts ∧
    (n ≤ p.stats.bursts → count .beginning h = 0)

/-- How far a run goes with a limit. -/
structure GoesTo (p : Pacer) (n : Int) (h : History Run) (r : Run) : Prop where
  begun : (p.stats.bursts + count .beginning h : Int) ≤ max n (p.stats.bursts + 1)
  counted : p.stats.bursts ≤ r.pacer.stats.bursts ∧
    r.pacer.stats.bursts ≤ p.stats.bursts + count .beginning h
  -- a limit that was reached before is exceeded by one burst
  exceeds : n ≤ p.stats.bursts → r.phase = .ended none → r.pacer.status = .stopped →
    (∃ first ∈ h.head?, first.2.stop = false) → r.pacer.stats.bursts = p.stats.bursts + 1

/-- A limit is kept by a run that has not reached it when it begins, and by one that is asked to stop
before it does anything; every other run goes beyond it by the burst that it begins with. -/
theorem keepsLimit_iff_of_course
    (course : machine.Course began (initial p carrier stop (some n) observer) h now r) :
    (r.KeepsLimit p n h ↔ p.stats.bursts < n ∨ ∀ first ∈ h.head?, first.2.stop = true) ∧
      r.GoesTo p n h := by
  obtain ⟨-, least, most, room, place⟩ := rationed_of_course course
  have opened := (opened_of_course course).count_eq_zero_iff
  rw [← opened]
  refine ⟨⟨fun kept => ?_, fun kept => ⟨?_, ?_⟩⟩, ⟨by omega, ⟨least, most⟩, ?_⟩⟩
  · by_cases below : (p.stats.bursts : Int) < n
    · exact .inl below
    · exact .inr (kept.2 (Int.not_lt.mp below))
  · omega
  · omega
  · intro reached returned stopped ⟨first, start, go⟩
    have some : count .beginning h ≠ 0 := by
      rw [ne_eq, opened]
      intro asked
      rw [asked first start] at go
      cases go
    rw [returned] at place
    have counted := place stopped
    omega

end Course

/-- The pacer of a run that sent the two bursts that it was allowed. -/
def spent : Pacer :=
  { rate := 1, nominal := .ms 10, generator := shortFillers
    stats := { bursts := 2, payloads := 2 }, status := .stopped }

/-- Run again with the same limit, it sends a third burst. -/
theorem keepsLimit_iff_spent :
    let (h, _, r) := machine.alone 4 0 (initial spent
      (.bare (fun _ => ⟨4, none, false⟩) 0 #[]) false (some 2) fun _ => {})
    r.isOver = true ∧ r.pacer.stats.bursts = 3 ∧ ¬ r.KeepsLimit spent 2 h ∧ r.GoesTo spent 2 h := by
  have kept := keepsLimit_iff_of_course (n := 2) (machine.alone_course 4 0 (initial spent
    (.bare (fun _ => ⟨4, none, false⟩) 0 #[]) false (some 2) fun _ => {}))
  refine ⟨by decide +kernel, by decide +kernel, fun keeps => ?_, kept.2⟩
  obtain below | asked := kept.1.mp keeps
  · exact absurd below (by decide)
  · exact absurd (asked _ rfl) (by decide)

/-- A run that may send no burst at all sends one. -/
theorem not_keepsLimit_none :
    let p : Pacer := { rate := 1, nominal := .ms 10, generator := shortFillers }
    let (h, _, r) := machine.alone 4 0 (initial p
      (.bare (fun _ => ⟨4, none, false⟩) 0 #[]) false (some 0) fun _ => {})
    r.isOver = true ∧ r.pacer.status = .stopped ∧ r.pacer.stats.bursts = 1 ∧
      ¬ r.KeepsLimit p 0 h := by
  refine ⟨by decide +kernel, by decide +kernel, by decide +kernel, fun keeps => ?_⟩
  exact absurd (keeps.2 (by decide)) (by decide +kernel)

end BurstLoad.Run
