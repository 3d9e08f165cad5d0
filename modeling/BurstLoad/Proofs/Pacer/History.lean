import BurstLoad.Proofs.Pacer.Move

/-! What a run of bursts did, told by its history: when bursts began, when transactions were
launched and landed, when bursts were closed. Where a run stands at any point of any course is fixed
by how often it did each of these. -/

set_option autoImplicit false

namespace BurstLoad.Run

open Machine (History)

/-- A run before it does anything. -/
def initial (p : Pacer) (carrier : Carrier) (stop : Bool) (maxBursts : Option Int)
    (observer : Burst → Reaction) : Run :=
  { (start p carrier stop maxBursts).1 with observer }

/-- Fillers of nine bytes. -/
def shortFillers : Payload.Generator :=
  ⟨false, 9, ⟨7, 0, 5⟩, by decide⟩

/-- What a run does when it acts. -/
inductive Deed where
  | leaving
  | beginning
  | launching
  | landing
  | closing
  | looking
  | nothing
  deriving DecidableEq

def deed (r : Run) : Deed :=
  match r.phase with
  | .looking => if r.stop then .leaving else .beginning
  | .sending _ 0 => .closing
  | .sending _ (_ + 1) => .launching
  | .inFlight _ _ _ _ => .landing
  | .resting _ => .looking
  | .ended _ | .cancelled => .nothing

/-- The moments at which a run did something of a kind. -/
def moments (d : Deed) (h : History Run) : List Time :=
  (h.filter fun act => act.2.deed = d).map Prod.fst

def count (d : Deed) (h : History Run) : Nat :=
  (moments d h).length

@[simp] theorem moments_nil (d : Deed) : moments d [] = [] :=
  rfl

@[simp] theorem count_nil (d : Deed) : count d [] = 0 :=
  rfl

theorem moments_append (d : Deed) (h more : History Run) :
    moments d (h ++ more) = moments d h ++ moments d more := by
  simp [moments]

theorem moments_concat (d : Deed) (h : History Run) (now : Time) (r : Run) :
    moments d (h ++ [(now, r)]) = moments d h ++ if r.deed = d then [now] else [] := by
  rw [moments_append]
  by_cases same : r.deed = d <;> simp [moments, same]

theorem count_concat (d : Deed) (h : History Run) (now : Time) (r : Run) :
    count d (h ++ [(now, r)]) = count d h + if r.deed = d then 1 else 0 := by
  rw [count, count, moments_concat, List.length_append]
  by_cases same : r.deed = d <;> simp [same]

theorem moments_getElem?_append {d : Deed} {h : History Run} {place : Nat} {time : Time}
    (known : (moments d h)[place]? = some time) (more : History Run) :
    (moments d (h ++ more))[place]? = some time := by
  obtain ⟨short, -⟩ := List.getElem?_eq_some_iff.mp known
  rw [moments_append, List.getElem?_append_left short, known]

theorem moments_getElem?_of_getLast? {d : Deed} {h : History Run} {place : Nat} {time : Time}
    (last : (moments d h).getLast? = some time) (length : count d h = place + 1) :
    (moments d h)[place]? = some time := by
  rw [List.getLast?_eq_getElem?, ← count, length] at last
  exact last

theorem mem_of_moments {d : Deed} {h : History Run} {time : Time} (member : time ∈ moments d h) :
    ∃ act ∈ h, act.1 = time := by
  obtain ⟨act, known, same⟩ := List.mem_map.mp member
  exact ⟨act, (List.mem_filter.mp known).1, same⟩

/-- Between two bursts each one that began was closed, with all its transactions. -/
structure Between (rate : Nat) (h : History Run) : Prop where
  closed : count .beginning h = count .closing h
  launched : count .launching h = rate * count .closing h
  landed : count .landing h = count .launching h

/-- Within a burst so many of its transactions are left, and so many are under way. -/
structure Within (rate left underWay : Nat) (h : History Run) : Prop where
  closed : count .beginning h = count .closing h + 1
  launched : count .launching h + left = rate * count .closing h + rate
  landed : count .landing h + underWay = count .launching h
  room : left + underWay ≤ rate

/-- After the end of a run at most one burst is not closed. -/
structure Beyond (rate : Nat) (h : History Run) : Prop where
  closed : count .closing h ≤ count .beginning h
  begun : count .beginning h ≤ count .closing h + 1
  landed : rate * count .closing h ≤ count .landing h
  launched : count .landing h ≤ count .launching h
  room : count .launching h ≤ rate * count .beginning h

theorem Between.beyond {rate : Nat} {h : History Run} (between : Between rate h) :
    Beyond rate h := by
  obtain ⟨closed, launched, landed⟩ := between
  have room : count .launching h = rate * count .beginning h := by rw [launched, closed]
  exact ⟨by omega, by omega, by omega, by omega, Nat.le_of_eq room⟩

theorem Within.beyond {rate left underWay : Nat} {h : History Run}
    (within : Within rate left underWay h) : Beyond rate h := by
  obtain ⟨closed, launched, landed, room⟩ := within
  refine ⟨by omega, by omega, by omega, by omega, ?_⟩
  rw [closed, Nat.mul_succ]
  omega

section Counts

variable {rate left : Nat} {h : History Run} {r : Run} (now : Time)

theorem Between.begin (between : Between rate h) (deed : r.deed = .beginning) :
    Within rate rate 0 (h ++ [(now, r)]) := by
  obtain ⟨closed, launched, landed⟩ := between
  refine ⟨?_, ?_, ?_, Nat.le_refl rate⟩ <;>
    simp only [count_concat, deed, reduceCtorEq, if_true, if_false, Nat.add_zero] <;> omega

theorem Within.launch (within : Within rate (left + 1) 0 h) (deed : r.deed = .launching) :
    Within rate left 1 (h ++ [(now, r)]) := by
  obtain ⟨closed, launched, landed, room⟩ := within
  refine ⟨?_, ?_, ?_, room⟩ <;>
    simp only [count_concat, deed, reduceCtorEq, if_true, if_false, Nat.add_zero] <;> omega

theorem Within.land (within : Within rate left 1 h) (deed : r.deed = .landing) :
    Within rate left 0 (h ++ [(now, r)]) := by
  obtain ⟨closed, launched, landed, room⟩ := within
  refine ⟨?_, ?_, ?_, Nat.le_of_succ_le room⟩ <;>
    simp only [count_concat, deed, reduceCtorEq, if_true, if_false, Nat.add_zero] <;> omega

theorem Within.close (within : Within rate 0 0 h) (deed : r.deed = .closing) :
    Between rate (h ++ [(now, r)]) := by
  obtain ⟨closed, launched, landed, room⟩ := within
  constructor <;>
    simp only [count_concat, deed, reduceCtorEq, if_true, if_false, Nat.add_zero, Nat.mul_succ] <;>
    omega

/-- What is done between two bursts but for beginning one changes nothing. -/
theorem Between.idle (between : Between rate h) (deed : r.deed = .leaving ∨ r.deed = .looking) :
    Between rate (h ++ [(now, r)]) := by
  obtain ⟨closed, launched, landed⟩ := between
  obtain deed | deed := deed <;> constructor <;>
    simp only [count_concat, deed, reduceCtorEq, if_false, Nat.add_zero] <;> omega

end Counts

/-- A burst under way is the one that began last. -/
structure Current (p : Pacer) (h : History Run) (burst : Burst) : Prop where
  started : (moments .beginning h).getLast? = some burst.started
  nominal : burst.nominal = p.nominal

/-- The history of a run that began with a pacer tells where the run is. -/
structure Stands (p : Pacer) (h : History Run) (r : Run) : Prop where
  rate : r.pacer.rate = p.rate
  nominal : r.pacer.nominal = p.nominal
  place : match r.phase with
    | .looking => Between p.rate h
    | .resting due => Between p.rate h ∧
      ∃ last, (moments .beginning h).getLast? = some last ∧ due = p.nominal.after last
    | .sending burst left => Within p.rate left 0 h ∧ Current p h burst
    | .inFlight burst left _ _ => Within p.rate left 1 h ∧ Current p h burst
    | .ended _ | .cancelled => Beyond p.rate h

section Stands

variable {p : Pacer} {h : History Run} {r : Run} {now due : Time}

theorem Stands.beyond (stands : r.Stands p h) : Beyond p.rate h := by
  have place := stands.place
  split at place
  · exact place.beyond
  · exact place.1.beyond
  · exact place.1.beyond
  · exact place.1.beyond
  · exact place
  · exact place

theorem Stands.between (stands : r.Stands p h) (looking : r.phase = .looking) :
    Between p.rate h := by
  have place := stands.place
  rw [looking] at place
  exact place

theorem Stands.resting {due : Option Time} (stands : r.Stands p h)
    (resting : r.phase = .resting due) : Between p.rate h ∧
      ∃ last, (moments .beginning h).getLast? = some last ∧ due = p.nominal.after last := by
  have place := stands.place
  rw [resting] at place
  exact place

theorem Stands.sending {burst : Burst} {left : Nat} (stands : r.Stands p h)
    (sending : r.phase = .sending burst left) :
    Within p.rate left 0 h ∧ Current p h burst := by
  have place := stands.place
  rw [sending] at place
  exact place

theorem Stands.inFlight {burst : Burst} {left : Nat} {flight : Flight} {due : Time}
    (stands : r.Stands p h) (underWay : r.phase = .inFlight burst left flight due) :
    Within p.rate left 1 h ∧ Current p h burst := by
  have place := stands.place
  rw [underWay] at place
  exact place

theorem deed_of_leaving (looking : r.phase = .looking) (stop : r.stop = true) :
    r.deed = .leaving := by
  simp [deed, looking, stop]

theorem deed_of_beginning (looking : r.phase = .looking) (stop : r.stop = false) :
    r.deed = .beginning := by
  simp [deed, looking, stop]

theorem deed_of_launching {burst : Burst} {left : Nat}
    (sending : r.phase = .sending burst (left + 1)) : r.deed = .launching := by
  rw [deed, sending]

theorem deed_of_landing {burst : Burst} {left : Nat} {flight : Flight} {due : Time}
    (underWay : r.phase = .inFlight burst left flight due) : r.deed = .landing := by
  rw [deed, underWay]

theorem deed_of_closing {burst : Burst} (sent : r.phase = .sending burst 0) :
    r.deed = .closing := by
  rw [deed, sent]

theorem deed_of_looking {due : Option Time} (resting : r.phase = .resting due) :
    r.deed = .looking := by
  rw [deed, resting]

/-- The moments of one kind do not change when something else is done. -/
theorem moments_concat_of_ne {d e : Deed} (deed : r.deed = e) (other : e ≠ d) (h : History Run)
    (now : Time) : moments d (h ++ [(now, r)]) = moments d h := by
  rw [moments_concat, deed, if_neg other, List.append_nil]

theorem moments_concat_of_eq {d : Deed} (deed : r.deed = d) (h : History Run) (now : Time) :
    moments d (h ++ [(now, r)]) = moments d h ++ [now] := by
  rw [moments_concat, if_pos deed]

theorem count_concat_of_ne {d e : Deed} (deed : r.deed = e) (other : e ≠ d) (h : History Run)
    (now : Time) : count d (h ++ [(now, r)]) = count d h :=
  congrArg List.length (moments_concat_of_ne deed other h now)

theorem count_concat_of_eq {d : Deed} (deed : r.deed = d) (h : History Run) (now : Time) :
    count d (h ++ [(now, r)]) = count d h + 1 := by
  rw [count_concat, if_pos deed]

theorem moments_getElem?_concat {d : Deed} {place : Nat} {time : Time}
    (known : (moments d (h ++ [(now, r)]))[place]? = some time) :
    (moments d h)[place]? = some time ∨ r.deed = d ∧ place = count d h ∧ time = now := by
  by_cases deed : r.deed = d
  · rw [moments_concat_of_eq deed, List.getElem?_append] at known
    split at known
    · exact .inl known
    · next beyond =>
      obtain ⟨last, rfl⟩ : place - (moments d h).length = 0 ∧ now = time := by
        simpa [List.getElem?_singleton] using known
      have place : place = count d h := by
        rw [count]
        omega
      exact .inr ⟨deed, place, rfl⟩
  · rw [moments_concat_of_ne rfl deed] at known
    exact .inl known

theorem Current.concat {burst : Burst} {e : Deed} (current : Current p h burst) (deed : r.deed = e)
    (other : e ≠ .beginning) (now : Time) : Current p (h ++ [(now, r)]) burst :=
  ⟨by rw [moments_concat_of_ne deed other]; exact current.started, current.nominal⟩

theorem stands_initial (p : Pacer) (carrier : Carrier) (stop : Bool) (maxBursts : Option Int)
    (observer : Burst → Reaction) : (initial p carrier stop maxBursts observer).Stands p [] :=
  ⟨rfl, rfl, rfl, rfl, rfl⟩

/-- What an act adds to the history takes the run to where it stands then. -/
theorem Stands.act {next : Run} (stands : r.Stands p h) (move : Move now r next) :
    next.Stands p (h ++ [(now, r)]) := by
  obtain ⟨rate, nominal, -⟩ := id stands
  cases move with
  | leave looking stop =>
    have deed := deed_of_leaving looking stop
    exact ⟨rate, nominal, ((stands.between looking).idle now (.inl deed)).beyond⟩
  | begin looking stop =>
    have deed := deed_of_beginning looking stop
    refine ⟨rate, nominal, ?_, ?_, nominal⟩
    · rw [rate]
      exact (stands.between looking).begin now deed
    · rw [moments_concat_of_eq deed, List.getLast?_concat]
      rfl
  | launch sending =>
    have deed := deed_of_launching sending
    obtain ⟨within, current⟩ := stands.sending sending
    exact ⟨rate, nominal, within.launch now deed, current.concat deed (by decide) now⟩
  | land underWay =>
    have deed := deed_of_landing underWay
    obtain ⟨within, current⟩ := stands.inFlight underWay
    obtain ⟨started, span⟩ := current.concat deed (by decide) now
    exact ⟨rate, nominal, within.land now deed, started, span⟩
  | fail underWay | breakOff underWay =>
    have deed := deed_of_landing underWay
    exact ⟨rate, nominal, ((stands.inFlight underWay).1.land now deed).beyond⟩
  | relapse sent | object sent | suffice sent =>
    have deed := deed_of_closing sent
    exact ⟨rate, nominal, ((stands.sending sent).1.close now deed).beyond⟩
  | rest sent =>
    have deed := deed_of_closing sent
    obtain ⟨within, current⟩ := stands.sending sent
    exact ⟨rate, nominal, within.close now deed, _, (current.concat deed (by decide) now).started,
      congrArg (Span.after · _) nominal⟩
  | look resting =>
    have deed := deed_of_looking resting
    exact ⟨rate, nominal, (stands.resting resting).1.idle now (.inr deed)⟩

theorem Stands.take (stands : r.Stands p h) (now : Time) (input : Input) :
    (r.take now input).1.Stands p h := by
  obtain same | same | ⟨-, same⟩ := r.take_eq now input
  · rw [same]
    exact stands
  · rw [same]
    exact ⟨stands.rate, stands.nominal, stands.place⟩
  · rw [same]
    exact ⟨stands.rate, stands.nominal, stands.beyond⟩

theorem moments_mono {first : Run} {began : Time} (course : machine.Course began first h now r)
    {d : Deed} {i j : Nat} {s t : Time} (le : i ≤ j) (early : (moments d h)[i]? = some s)
    (late : (moments d h)[j]? = some t) : s ≤ t := by
  have sorted : (moments d h).Pairwise (· ≤ ·) :=
    List.pairwise_map.mpr (course.sorted.filter _)
  obtain ⟨_, rfl⟩ := List.getElem?_eq_some_iff.mp early
  obtain ⟨_, rfl⟩ := List.getElem?_eq_some_iff.mp late
  obtain rfl | lt := Nat.eq_or_lt_of_le le
  · exact Rat.le_refl
  · exact List.pairwise_iff_getElem.mp sorted i j _ _ lt

theorem stands_of_course {carrier : Carrier} {stop : Bool} {maxBursts : Option Int}
    {observer : Burst → Reaction} {began : Time}
    (course : machine.Course began (initial p carrier stop maxBursts observer) h now r) :
    r.Stands p h := by
  induction course with
  | start => exact stands_initial p carrier stop maxBursts observer
  | act _ wakes ih => exact ih.act (move_act (going_of_moment? wakes) _)
  | @take _ _ moment _ input _ _ _ ih => exact ih.take moment input

end Stands

end BurstLoad.Run
