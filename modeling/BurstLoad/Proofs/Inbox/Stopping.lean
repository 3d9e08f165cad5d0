import BurstLoad.Proofs.Inbox.Isolation

/-! Stopping a listener. It closes the connections that have begun to read, and these stay closed and
silent. A connection that was accepted and has not had its first turn is passed over: it begins to
read after the listener was stopped. -/

set_option autoImplicit false

namespace BurstLoad

open BurstLoad.Frame (Reading)

namespace Visitor

/-- A connection is closed once, or it is open and was not closed. -/
def IsCounted (v : Visitor) : Prop :=
  v.closes = if v.stage = .closed then 1 else 0

theorem IsCounted.drain {v : Visitor} (counted : v.IsCounted) (reading : v.stage = .reading)
    (receiver : Receiver) : (v.drain receiver).2.1.IsCounted := by
  have unclosed : v.closes = 0 := by simpa [IsCounted, reading] using counted
  rw [drain_eq]
  dsimp only
  cases (v.reader.serve receiver.faults).last with
  | pending | frame => exact counted
  | finished | failed => exact congrArg (· + 1) unclosed

theorem IsCounted.proceed {v : Visitor} (counted : v.IsCounted) (receiver : Receiver) :
    (v.proceed receiver).2.1.IsCounted := by
  unfold Visitor.proceed
  cases stage : v.stage with
  | closed => exact counted
  | reading => exact counted.drain stage receiver
  | accepted =>
    have begun : { v with stage := .reading }.IsCounted := by simpa [IsCounted, stage] using counted
    exact begun.drain rfl receiver

end Visitor

namespace Inbox

/-- What a listener comes to as connections come, events come to them and those that are woken take
turns, in any order. -/
inductive Goes (i : Inbox) : Inbox → Prop where
  | start : Goes i i
  | accept {j : Inbox} (name : String) (peer : Peer) (closeFault : Option Fault) :
    Goes i j → Goes i (j.accept name peer closeFault)
  | deliver {j : Inbox} (name : String) (event : Event) : Goes i j → Goes i (j.deliver name event)
  | proceed {j : Inbox} : Goes i j → Goes i j.proceed.1

theorem visitor_of_reached? {i : Inbox} {name : String} {place : Nat} {v : Visitor}
    (reached : i.reached? name = some (place, v)) :
    i.visitors[place]? = some v ∧ v.stage ≠ .closed := by
  unfold reached? at reached
  split at reached
  · next w other found =>
    split at reached
    · cases reached
    · next unclosed =>
      cases reached
      exact ⟨visitor_of_found found, unclosed⟩
  · cases reached

/-- What a property of single connections needs to hold of all of them at all times. -/
theorem Goes.visitors_invariant {P : Visitor → Prop} {i j : Inbox} (goes : i.Goes j)
    (start : ∀ v ∈ i.visitors, P v)
    (accept : ∀ name peer closeFault limit, P { name, peer, closeFault, reader := { limit } })
    (change : ∀ v reader, P v → P { v with reader })
    (proceed : ∀ v receiver, P v → P (v.proceed receiver).2.1) : ∀ v ∈ j.visitors, P v := by
  induction goes with
  | start => exact start
  | @accept j name peer closeFault _ ih =>
    unfold Inbox.accept
    split
    · intro v member
      obtain member | last := List.mem_append.mp member
      · exact ih v member
      · obtain rfl := List.mem_singleton.mp last
        exact accept name peer closeFault j.limit
    · exact ih
  | @deliver j name event _ ih =>
    unfold Inbox.deliver
    split
    · exact ih
    · next place w reached =>
      intro v member
      obtain member | rfl := List.mem_or_eq_of_mem_set member
      · exact ih v member
      · exact change w _ (ih w (List.mem_of_getElem? (visitor_of_reached? reached).1))
  | @proceed j _ ih =>
    unfold Inbox.proceed
    split
    · exact ih
    · split
      · exact ih
      · next w here =>
        intro v member
        obtain member | rfl := List.mem_or_eq_of_mem_set member
        · exact ih v member
        · exact proceed w _ (ih w (List.mem_of_getElem? here))

theorem isCounted_of_goes {i j : Inbox} (none : i.visitors = []) (goes : i.Goes j) :
    ∀ v ∈ j.visitors, v.IsCounted := by
  refine goes.visitors_invariant (by simp [none]) (fun _ _ _ _ => rfl) (fun _ _ counted => counted) ?_
  intro v receiver counted
  exact counted.proceed receiver

/-- A connection that is closed stays as it is. -/
theorem Goes.closed {i j : Inbox} (goes : i.Goes j) {place : Nat} {v : Visitor}
    (here : i.visitors[place]? = some v) (closed : v.stage = .closed) :
    j.visitors[place]? = some v := by
  induction goes with
  | start => exact here
  | accept name peer closeFault _ ih =>
    unfold Inbox.accept
    split
    · have low := (List.getElem?_eq_some_iff.mp ih).1
      exact (List.getElem?_append_left low).trans ih
    · exact ih
  | deliver name event _ ih =>
    unfold Inbox.deliver
    split
    · exact ih
    · next other w reached =>
      obtain ⟨there, unclosed⟩ := visitor_of_reached? reached
      by_cases same : other = place
      · subst same
        rw [ih] at there
        cases there
        exact absurd closed unclosed
      · exact (List.getElem?_set_ne same).trans ih
  | proceed _ ih =>
    unfold Inbox.proceed
    split
    · exact ih
    · next other woken _ =>
      split
      · exact ih
      · next w there =>
        by_cases same : other = place
        · subst same
          rw [ih] at there
          cases there
          have low := (List.getElem?_eq_some_iff.mp ih).1
          simp [Visitor.proceed, closed, List.getElem?_set_self low]
        · exact (List.getElem?_set_ne same).trans ih

theorem Goes.bound {i j : Inbox} (goes : i.Goes j) : j.bound = i.bound := by
  induction goes with
  | start => rfl
  | accept name peer closeFault _ ih => exact (bound_accept _ name peer closeFault).trans ih
  | deliver name event _ ih => exact (bound_deliver _ name event).trans ih
  | proceed _ ih => exact (bound_proceed _).trans ih

/-- A listener that is not bound and all of whose connections are closed takes nothing any more. -/
theorem Goes.silent {i j : Inbox} (goes : i.Goes j) (unbound : i.bound = none)
    (closed : ∀ v ∈ i.visitors, v.stage = .closed) :
    j.visitors = i.visitors ∧ j.receiver = i.receiver := by
  induction goes with
  | start => exact ⟨rfl, rfl⟩
  | accept name peer closeFault before ih =>
    have stopped := before.bound.trans unbound
    unfold Inbox.accept
    rw [if_neg (by simp [running, stopped])]
    exact ih
  | deliver name event before ih =>
    unfold Inbox.deliver
    split
    · exact ih
    · next place v reached =>
      obtain ⟨here, unclosed⟩ := visitor_of_reached? reached
      rw [ih.1] at here
      exact absurd (closed v (List.mem_of_getElem? here)) unclosed
  | proceed before ih =>
    unfold Inbox.proceed
    split
    · exact ih
    · split
      · exact ih
      · next place _ _ _ v here =>
        have shut : v.stage = .closed := closed v (List.mem_of_getElem? (ih.1 ▸ here))
        obtain ⟨low, same⟩ := List.getElem?_eq_some_iff.mp here
        simp only [Visitor.proceed, shut]
        refine ⟨?_, ih.2⟩
        rw [← ih.1, ← same, List.set_getElem_self low]

theorem closeReading_eq (visitors : List Visitor) :
    (closeReading visitors).1 =
      visitors.map fun v => if v.stage = .reading then v.close.1 else v := by
  induction visitors with
  | nil => rfl
  | cons v rest ih =>
    rw [List.map_cons, ← ih, closeReading]
    dsimp only
    split <;> rfl

/-- All that was accepted is closed, once, and nothing more is taken. -/
structure HasStopped (i j : Inbox) : Prop where
  running : j.running = false
  closed : ∀ v ∈ j.visitors, v.stage = .closed ∧ v.closes = 1
  silent : j.receiver = i.receiver

section Stop

variable {i j : Inbox}

theorem visitors_stop (running : i.running = true) :
    i.stop.1.visitors = i.visitors.map fun v => if v.stage = .reading then v.close.1 else v := by
  obtain ⟨port, bound⟩ := Option.isSome_iff_exists.mp running
  rw [← closeReading_eq]
  simp only [stop, bound]

/-- Stopping closes each connection that has begun to read and leaves those that have not. -/
theorem visitor_stop (running : i.running = true) {place : Nat} {v : Visitor}
    (here : i.visitors[place]? = some v) (counted : v.IsCounted) :
    ∃ w, i.stop.1.visitors[place]? = some w ∧ (v.stage = .accepted → w = v) ∧
      (v.stage ≠ .accepted → w.stage = .closed ∧ w.closes = 1) := by
  rw [visitors_stop running, List.getElem?_map, here]
  refine ⟨_, rfl, ?_, ?_⟩
  · intro accepted
    exact if_neg (by simp [accepted])
  · intro begun
    unfold Visitor.IsCounted at counted
    cases stage : v.stage with
    | accepted => exact absurd stage begun
    | reading => simpa [Visitor.close, stage] using counted
    | closed => simpa [stage] using counted

/-- What stopping a listener comes to. Whatever happens afterwards, it does not run, and each connection
that had begun to read is closed, once, and stays so. That is all there is to it if and only if every
connection had begun: then nothing more is taken. -/
theorem hasStopped_iff (none : i.visitors = []) (running : i.running = true) (goes : i.Goes j) :
    (∀ k, j.stop.1.Goes k → k.running = false ∧ ∀ (place : Nat) (v : Visitor),
      j.visitors[place]? = some v → v.stage ≠ .accepted →
        ∃ w, k.visitors[place]? = some w ∧ w.stage = .closed ∧ w.closes = 1) ∧
    ((∀ k, j.stop.1.Goes k → HasStopped j k) ↔ ∀ v ∈ j.visitors, v.stage ≠ .accepted) := by
  have counted := isCounted_of_goes none goes
  have here : j.running = true := by
    rw [Inbox.running, goes.bound]
    exact running
  have stopped {k : Inbox} (onward : j.stop.1.Goes k) : k.running = false := by
    rw [Inbox.running, onward.bound, bound_stop]
    rfl
  refine ⟨fun k onward => ⟨stopped onward, fun place v found begun => ?_⟩, fun complete => ?_,
    fun begun k onward => ?_⟩
  · obtain ⟨w, left, -, shut⟩ := visitor_stop here found (counted v (List.mem_of_getElem? found))
    obtain ⟨closed, once⟩ := shut begun
    exact ⟨w, onward.closed left closed, closed, once⟩
  · intro v member accepted
    obtain ⟨place, found⟩ := List.getElem?_of_mem member
    obtain ⟨w, left, same, -⟩ := visitor_stop here found (counted v member)
    have closed := ((complete _ .start).closed w (List.mem_of_getElem? left)).1
    rw [same accepted, accepted] at closed
    cases closed
  · have shut : ∀ w ∈ j.stop.1.visitors, w.stage = .closed ∧ w.closes = 1 := by
      intro w member
      obtain ⟨place, left⟩ := List.getElem?_of_mem member
      have shape := left
      rw [visitors_stop here, List.getElem?_map, Option.map_eq_some_iff] at shape
      obtain ⟨v, found, -⟩ := shape
      have known := List.mem_of_getElem? found
      obtain ⟨u, same, -, closed⟩ := visitor_stop here found (counted v known)
      rw [left] at same
      cases same
      exact closed (begun v known)
    obtain ⟨visitors, receiver⟩ := onward.silent j.bound_stop fun w member => (shut w member).1
    refine ⟨stopped onward, ?_, receiver.trans j.receiver_stop⟩
    rw [visitors]
    exact shut

/-- A connection that had begun to read is closed when the listener is stopped. -/
theorem hasStopped_narrow : ∃ j, narrow.Goes j ∧ j.visitors.map Visitor.stage = [.reading] ∧
    j.stop.1.visitors.map Visitor.stage = [.closed] ∧
    HasStopped j (j.stop.1.deliver "a" (.feed [0, 0, 0, 1, 7])).proceed.1 := by
  have goes := (Goes.start (i := narrow)).accept "a" none none |>.proceed
  have begun : ∀ v ∈ (narrow.accept "a" none none).proceed.1.visitors, v.stage ≠ .accepted := by
    decide +kernel
  have complete := (hasStopped_iff rfl rfl goes).2.mpr begun
  exact ⟨_, goes, by decide +kernel, by decide +kernel,
    complete _ ((Goes.start.deliver "a" (.feed [0, 0, 0, 1, 7])).proceed)⟩

/-- A connection that was accepted just before the listener was stopped begins to read afterwards, and
its frame is taken. -/
theorem not_hasStopped_narrow : ∃ j k, narrow.Goes j ∧ j.stop.1.Goes k ∧ k.running = false ∧
    k.visitors.map Visitor.stage = [.reading] ∧ k.receiver.frames = j.receiver.frames + 1 ∧
    ¬ HasStopped j k := by
  have goes := (Goes.start (i := narrow)).accept "a" none none
  have onward := (Goes.start (i := (narrow.accept "a" none none).stop.1)).proceed.deliver "a"
    (.feed [0, 0, 0, 1, 7]) |>.proceed
  refine ⟨_, _, goes, onward, by decide +kernel, by decide +kernel, by decide +kernel, ?_⟩
  intro stopped
  have taken := congrArg Receiver.frames stopped.silent
  revert taken
  decide +kernel

end Stop

end Inbox

end BurstLoad
