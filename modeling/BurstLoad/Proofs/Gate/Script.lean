import BurstLoad.Proofs.Gate

/-! A probe and the script of its node. The script says of each attempt how long it takes and what comes
of it, and the probe follows it: it tries, pauses after every refusal, and is done with the first
attempt that is not refused. When it tries follows from its own script alone. -/

set_option autoImplicit false

namespace BurstLoad

namespace Network

/-- What an attempt comes to for a probe. -/
inductive Answer where
  | accepted
  | refused (fault : Fault)
  -- an error that is not a network error
  | broken (fault : Fault)

/-- A network error at the close of a connection does not count. -/
def answerOf : Except Fault WirePlan → Answer
  | .error fault => if fault.isNetwork then .refused fault else .broken fault
  | .ok plan =>
    match plan.closeFault with
    | none => .accepted
    | some fault => if fault.isNetwork then .accepted else .broken fault

/-- How the attempts at one node go, one after the other. -/
abbrev Script := Nat → AttemptPlan

namespace Script

variable (script : Script) (retry : Time)

def answer (place : Nat) : Answer :=
  answerOf (script place).result

/-- When an attempt begins: after the delays and the pauses of all before it. -/
def knockAt : Nat → Time
  | 0 => 0
  | place + 1 => knockAt place + ((script place).delay + retry)

/-- When an attempt is answered. -/
def answerAt (place : Nat) : Time :=
  script.knockAt retry place + (script place).delay

/-- All attempts before one were refused. -/
def RefusedUpTo (place : Nat) : Prop :=
  ∀ before < place, ∃ fault, script.answer before = .refused fault

/-- The first attempt that is accepted, after none but refused ones. -/
structure AcceptedAt (place : Nat) : Prop where
  refused : script.RefusedUpTo place
  accepted : script.answer place = .accepted

/-- No attempt takes less than no time. -/
def IsTimely : Prop :=
  ∀ place, 0 ≤ (script place).delay

/-- Every attempt is accepted or meets a network error. -/
def IsPlain : Prop :=
  ∀ place fault, script.answer place ≠ .broken fault

variable {script retry} {place other : Nat}

theorem knockAt_succ :
    script.knockAt retry (place + 1) = script.answerAt retry place + retry := by
  rw [knockAt, answerAt, Rat.add_assoc]

theorem RefusedUpTo.zero : script.RefusedUpTo 0 := by
  intro before early
  omega

theorem RefusedUpTo.succ (refused : script.RefusedUpTo place) {fault : Fault}
    (answered : script.answer place = .refused fault) : script.RefusedUpTo (place + 1) := by
  intro before early
  by_cases last : before = place
  · exact ⟨fault, last ▸ answered⟩
  · exact refused before (by omega)

/-- Nothing is tried after what was not refused. -/
theorem RefusedUpTo.le_of_not_refused (refused : script.RefusedUpTo place)
    (settled : ∀ fault, script.answer other ≠ .refused fault) : place ≤ other := by
  rw [← Nat.not_lt]
  intro later
  obtain ⟨fault, answered⟩ := refused other later
  exact settled fault answered

theorem RefusedUpTo.le_of_acceptedAt (refused : script.RefusedUpTo place)
    (first : script.AcceptedAt other) : place ≤ other := by
  apply refused.le_of_not_refused
  simp [first.accepted]

theorem AcceptedAt.unique (first : script.AcceptedAt place) (second : script.AcceptedAt other) :
    place = other :=
  Nat.le_antisymm (first.refused.le_of_acceptedAt second) (second.refused.le_of_acceptedAt first)

theorem answerAt_le_knockAt_succ (nonneg : 0 ≤ retry) :
    script.answerAt retry place ≤ script.knockAt retry (place + 1) := by
  rw [knockAt_succ]
  grind

section Moments

variable (timely : script.IsTimely)

include timely

theorem knockAt_le_answerAt : script.knockAt retry place ≤ script.answerAt retry place := by
  have delay := timely place
  unfold answerAt
  grind

theorem knockAt_mono (nonneg : 0 ≤ retry) (le : place ≤ other) :
    script.knockAt retry place ≤ script.knockAt retry other := by
  induction le with
  | refl => exact Rat.le_refl
  | step _ ih =>
    refine Rat.le_trans ih (Rat.le_trans (knockAt_le_answerAt timely) ?_)
    exact answerAt_le_knockAt_succ nonneg

theorem answerAt_mono (nonneg : 0 ≤ retry) (le : place ≤ other) :
    script.answerAt retry place ≤ script.answerAt retry other := by
  obtain rfl | later := Nat.eq_or_lt_of_le le
  · exact Rat.le_refl
  · refine Rat.le_trans (answerAt_le_knockAt_succ nonneg) ?_
    exact Rat.le_trans (knockAt_mono timely nonneg later) (knockAt_le_answerAt timely)

end Moments

end Script

/-- When an endpoint was tried. -/
def triedAt (n : Network) (e : Endpoint) : List Time :=
  (n.attempts.toList.filter fun attempt => attempt.2 = e).map Prod.fst

theorem length_triedAt (n : Network) (e : Endpoint) : (n.triedAt e).length = n.attemptsAt e := by
  rw [triedAt, List.length_map, attemptsAt, List.countP_eq_length_filter]

theorem triedAt_attempt (n : Network) (now : Time) (e f : Endpoint) :
    (n.attempt now e).1.triedAt f = n.triedAt f ++ if e = f then [now] else [] := by
  by_cases same : e = f <;> simp [triedAt, attempt, same]

/-- Nothing was tried on a network between two moments. -/
structure IsUntried (n m : Network) : Prop where
  plan : m.plan = n.plan
  tries : m.tries = n.tries
  attempts : m.attempts = n.attempts

theorem IsUntried.refl (n : Network) : n.IsUntried n :=
  ⟨rfl, rfl, rfl⟩

theorem isUntried_openAndClose (n : Network) (e : Endpoint) (plan : WirePlan) :
    n.IsUntried (n.openAndClose e plan).1 :=
  ⟨rfl, rfl, rfl⟩

theorem IsUntried.triedAt_eq {n m : Network} (untried : n.IsUntried m) (e : Endpoint) :
    m.triedAt e = n.triedAt e := by
  rw [triedAt, triedAt, untried.attempts]

theorem IsUntried.isCounted {n m : Network} (untried : n.IsUntried m) (counted : n.IsCounted) :
    m.IsCounted := by
  intro e
  have before := counted e
  unfold triesOf attemptsAt at before ⊢
  rw [untried.tries, untried.attempts]
  exact before

end Network

namespace Probe

open Network (Answer answerOf Script)

/-- How a probe goes on at a moment: one case for each way. -/
inductive Turn (retry : Span) (now : Time) (n : Network) (p : Probe) : Network → Probe → Prop where
  | knock : (∃ since, p.stage = .unstarted since) ∨ (∃ due, p.stage = .pausing due) →
    Turn retry now n p (n.attempt now p.peer).1 { p with
      attempts := p.attempts + 1
      stage := .connecting (now + (n.plan p.peer (n.triesOf p.peer)).delay)
        (n.plan p.peer (n.triesOf p.peer)).result }
  | pause {due : Time} {result : Except Fault Network.WirePlan} {fault : Fault} :
    p.stage = .connecting due result → answerOf result = .refused fault →
    Turn retry now n p n { p with stage := .pausing (retry.after now) }
  | comeThrough {due : Time} {result : Except Fault Network.WirePlan} {m : Network} :
    p.stage = .connecting due result → answerOf result = .accepted → n.IsUntried m →
    Turn retry now n p m { p with stage := .online }
  | fail {due : Time} {result : Except Fault Network.WirePlan} {fault : Fault} {m : Network} :
    p.stage = .connecting due result → answerOf result = .broken fault → n.IsUntried m →
    Turn retry now n p m { p with stage := .failed fault }
  | rest : p.isOver = true → Turn retry now n p n p

theorem turn_miss {p : Probe} {due : Time} {fault : Fault} (retry : Span) (now : Time) (n : Network)
    (connecting : p.stage = .connecting due (.error fault)) :
    Turn retry now n p n (p.miss retry now fault).1 := by
  unfold miss
  split
  · next refused => exact .pause connecting (by rw [answerOf, if_pos refused])
  · next broken => exact .fail connecting (by rw [answerOf, if_neg broken]) (.refl n)

theorem turn_hit {p : Probe} {due : Time} {plan : Network.WirePlan} (retry : Span) (now : Time)
    (n : Network) (connecting : p.stage = .connecting due (.ok plan)) :
    Turn retry now n p (p.hit plan n).2.1 (p.hit plan n).1 := by
  have untried := n.isUntried_openAndClose p.peer plan
  have closing : (n.openAndClose p.peer plan).2 = plan.closeFault := rfl
  unfold hit
  split
  · next clean =>
    rw [clean] at untried closing
    exact .comeThrough connecting (by rw [answerOf, ← closing]) untried
  · next fault faulty =>
    rw [faulty] at untried closing
    split
    · next harmless =>
      exact .comeThrough connecting (by simp only [answerOf, ← closing, if_pos harmless]) untried
    · next broken =>
      exact .fail connecting (by simp only [answerOf, ← closing, if_neg broken]) untried

theorem turn_act (p : Probe) (retry : Span) (now : Time) (n : Network) :
    Turn retry now n p (p.act retry now n).2.1 (p.act retry now n).1 := by
  unfold act
  split
  · next since unstarted => exact .knock (.inl ⟨since, unstarted⟩)
  · next due pausing => exact .knock (.inr ⟨due, pausing⟩)
  · next connecting => exact turn_miss retry now n connecting
  · next connecting => exact turn_hit retry now n connecting
  · next online => exact .rest (by rw [isOver, online])
  · next failed => exact .rest (by rw [isOver, failed])
  · next cancelled => exact .rest (by rw [isOver, cancelled])

theorem wake_of_isOver {p : Probe} (finished : p.isOver = true) : p.wake = .idle := by
  unfold isOver at finished
  unfold wake
  split at finished
  · next online => rw [online]
  · next failed => rw [failed]
  · next cancelled => rw [cancelled]
  · cases finished

theorem Turn.peer_eq {p q : Probe} {retry : Span} {now : Time} {n m : Network}
    (turn : Turn retry now n p m q) : q.peer = p.peer := by
  cases turn <;> rfl

theorem Turn.plan_eq {p q : Probe} {retry : Span} {now : Time} {n m : Network}
    (turn : Turn retry now n p m q) : m.plan = n.plan := by
  cases turn with
  | knock | pause | rest => rfl
  | comeThrough _ _ untried | fail _ _ untried => exact untried.plan

/-- When a probe has tried by its script. -/
def knocks (script : Script) (retry : Time) (p : Probe) : List Time :=
  (List.range p.attempts).map (script.knockAt retry)

/-- A probe stands where its script has brought it by a moment. -/
def Follows (script : Script) (retry now : Time) (p : Probe) : Prop :=
  match p.stage with
  | .unstarted since =>
    script.RefusedUpTo p.attempts ∧ since = script.knockAt retry p.attempts ∧ now ≤ since
  | .connecting due result => ∃ place, p.attempts = place + 1 ∧ script.RefusedUpTo place ∧
    result = (script place).result ∧ due = script.answerAt retry place ∧ now ≤ due
  | .pausing due => script.RefusedUpTo p.attempts ∧
    due = some (script.knockAt retry p.attempts) ∧ now ≤ script.knockAt retry p.attempts
  | .online => ∃ place, p.attempts = place + 1 ∧ script.AcceptedAt place ∧
    script.answerAt retry place ≤ now
  | .failed fault => ∃ place, p.attempts = place + 1 ∧ script.RefusedUpTo place ∧
    script.answer place = .broken fault ∧ script.answerAt retry place ≤ now
  | .cancelled => False

section Follows

variable {script : Script} {retry now later due : Time} {p q : Probe} {n m : Network}

theorem follows_unstarted (script : Script) (retry : Time) (peer : Endpoint) :
    Follows script retry 0 { peer, stage := .unstarted 0 } :=
  ⟨.zero, rfl, Rat.le_refl⟩

/-- A probe waits until its next turn comes. -/
theorem Follows.wait (follows : p.Follows script retry now) (onward : now ≤ later)
    (before : ∀ due, p.wake = .waking due → later ≤ due) : p.Follows script retry later := by
  unfold Follows wake at *
  split <;> simp only [*] at follows before
  case h_1 =>
    obtain ⟨refused, due, -⟩ := follows
    exact ⟨refused, due, before _ rfl⟩
  case h_2 =>
    obtain ⟨place, tried, refused, result, due, -⟩ := follows
    exact ⟨place, tried, refused, result, due, before _ rfl⟩
  case h_3 =>
    obtain ⟨refused, rfl, -⟩ := follows
    exact ⟨refused, rfl, before _ rfl⟩
  case h_4 =>
    obtain ⟨place, tried, first, answered⟩ := follows
    exact ⟨place, tried, first, Rat.le_trans answered onward⟩
  case h_5 =>
    obtain ⟨place, tried, refused, broken, answered⟩ := follows
    exact ⟨place, tried, refused, broken, Rat.le_trans answered onward⟩

theorem Follows.finished_or_wakes (follows : p.Follows script retry now) :
    p.isOver = true ∨ ∃ due, p.wake = .waking due ∧ now ≤ due := by
  unfold Follows at follows
  unfold isOver wake
  cases stage : p.stage <;> simp only [stage] at follows
  case unstarted since => exact .inr ⟨since, rfl, follows.2.2⟩
  case connecting due result =>
    obtain ⟨place, -, -, -, -, ahead⟩ := follows
    exact .inr ⟨due, rfl, ahead⟩
  case pausing due =>
    obtain ⟨-, rfl, ahead⟩ := follows
    exact .inr ⟨_, rfl, ahead⟩
  case online | failed => exact .inl rfl

/-- Where a probe is about to try, its script has come to the next attempt. -/
theorem Follows.knocking (follows : p.Follows script retry now) (wakes : p.wake = .waking due)
    (place : (∃ since, p.stage = .unstarted since) ∨ (∃ due, p.stage = .pausing due)) :
    script.RefusedUpTo p.attempts ∧ due = script.knockAt retry p.attempts := by
  obtain ⟨since, unstarted⟩ | ⟨since, pausing⟩ := place
  · simp only [Follows, wake, unstarted, Wake.waking.injEq] at follows wakes
    exact ⟨follows.1, wakes.symm.trans follows.2.1⟩
  · simp only [Follows, wake, pausing] at follows wakes
    rw [follows.2.1] at wakes
    exact ⟨follows.1, (Wake.waking.inj wakes).symm⟩

/-- Where a probe waits for an answer, its script has come to the answer of the last attempt. -/
theorem Follows.connecting (follows : p.Follows script retry now) (wakes : p.wake = .waking due)
    {time : Time} {result : Except Fault Network.WirePlan}
    (connecting : p.stage = .connecting time result) :
    ∃ place, p.attempts = place + 1 ∧ script.RefusedUpTo place ∧
      script.answer place = answerOf result ∧ due = script.answerAt retry place := by
  simp only [Follows, wake, connecting, Wake.waking.injEq] at follows wakes
  obtain ⟨place, tried, refused, rfl, rfl, -⟩ := follows
  exact ⟨place, tried, refused, rfl, wakes.symm⟩

/-- A probe that has its turn when it wakes goes on by its script. -/
theorem Follows.turn (follows : p.Follows script retry now) (wakes : p.wake = .waking due)
    (timely : script.IsTimely) (nonneg : 0 ≤ retry) (plan : n.plan p.peer = script)
    (counted : n.triesOf p.peer = p.attempts) (turn : Turn (.ms retry) due n p m q) :
    q.Follows script retry due := by
  cases turn with
  | knock place =>
    obtain ⟨refused, rfl⟩ := follows.knocking wakes place
    rw [counted, plan]
    exact ⟨p.attempts, rfl, refused, rfl, rfl, Script.knockAt_le_answerAt timely⟩
  | pause connecting answered =>
    obtain ⟨place, tried, refused, same, rfl⟩ := follows.connecting wakes connecting
    have next := refused.succ (same.trans answered)
    rw [← tried] at next
    have due : script.answerAt retry place + retry = script.knockAt retry p.attempts := by
      rw [tried, Script.knockAt_succ]
    refine ⟨next, congrArg some due, ?_⟩
    rw [tried]
    exact Script.answerAt_le_knockAt_succ nonneg
  | comeThrough connecting answered =>
    obtain ⟨place, tried, refused, same, rfl⟩ := follows.connecting wakes connecting
    exact ⟨place, tried, ⟨refused, same.trans answered⟩, Rat.le_refl⟩
  | fail connecting answered =>
    obtain ⟨place, tried, refused, same, rfl⟩ := follows.connecting wakes connecting
    exact ⟨place, tried, refused, same.trans answered, Rat.le_refl⟩
  | rest finished =>
    rw [wake_of_isOver finished] at wakes
    cases wakes

/-- What was tried at the node of a probe that goes on. -/
theorem Turn.triedAt_own (turn : Turn (.ms retry) due n p m q)
    (follows : p.Follows script retry now) (wakes : p.wake = .waking due)
    (tried : n.triedAt p.peer = p.knocks script retry) :
    m.triedAt q.peer = q.knocks script retry := by
  cases turn with
  | knock place =>
    rw [n.triedAt_attempt, tried, (follows.knocking wakes place).2]
    simp [knocks, List.range_succ]
  | pause | rest => exact tried
  | comeThrough _ _ untried | fail _ _ untried => exact (untried.triedAt_eq _).trans tried

theorem Turn.triedAt_other (turn : Turn (.ms retry) due n p m q) {e : Endpoint} (other : p.peer ≠ e) :
    m.triedAt e = n.triedAt e := by
  cases turn with
  | knock => rw [n.triedAt_attempt, if_neg other, List.append_nil]
  | pause | rest => rfl
  | comeThrough _ _ untried | fail _ _ untried => exact untried.triedAt_eq e

theorem Turn.isCounted {retry : Span} (turn : Turn retry due n p m q) (counted : n.IsCounted) :
    m.IsCounted := by
  cases turn with
  | knock => exact counted.attempt due p.peer
  | pause | rest => exact counted
  | comeThrough _ _ untried | fail _ _ untried => exact untried.isCounted counted

end Follows

end Probe

end BurstLoad
