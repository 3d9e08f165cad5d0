import BurstLoad.Proofs.Inbox
import BurstLoad.Proofs.Inbox.Turn

/-! What the connections of a listener do stays within it. They leave their notices in the listener's
own part of the log, at the level of information only for a verbose receiver, and the listener
without its connections is the same after as before. -/

set_option autoImplicit false

namespace BurstLoad

/-- Whether a notice is one that only connections leave. -/
def Notice.isAside (verbose : Bool) (n : Notice) : Bool :=
  n.part = .listener && (verbose || n.level ≠ .info)

namespace Visitor

variable {n : Notice}

theorem isAside_close (verbose : Bool) (v : Visitor) (member : n ∈ v.close.2) :
    n.isAside verbose = true := by
  unfold close at member
  dsimp only at member
  split at member
  · cases List.mem_singleton.mp member
    simp [Notice.isAside, closedNotice]
  · split at member
    · cases List.mem_singleton.mp member
      simp [Notice.isAside, closedNotice]
    · cases member

theorem isAside_faultNotice (verbose : Bool) (peer : Peer) (fault : Fault) :
    (faultNotice peer fault).isAside verbose = true := by
  unfold faultNotice
  split
  · simp [Notice.isAside]
  · split <;> simp [Notice.isAside]

theorem isAside_conclude (verbose : Bool) (v : Visitor) (last : Frame.Reading)
    (member : n ∈ (v.conclude last).2) : n.isAside verbose = true := by
  cases last with
  | finished => exact v.isAside_close verbose member
  | failed fault =>
    obtain rfl | closing := List.mem_cons.mp member
    · exact isAside_faultNotice verbose v.peer fault
    · exact v.isAside_close verbose closing
  | pending | frame => cases member

theorem isAside_noticesOf (r : Receiver) (peer : Peer) (frames : List Bytes)
    (member : n ∈ r.noticesOf peer frames) : n.isAside r.verbose = true := by
  unfold Receiver.noticesOf at member
  split at member
  · next verbose =>
    obtain ⟨frame, -, rfl⟩ := List.mem_map.mp member
    rw [verbose]
    unfold Receiver.noticeOf
    split
    · rfl
    · split <;> rfl
  · cases member

theorem proceed_aside (v : Visitor) (r : Receiver) :
    (v.proceed r).1.verbose = r.verbose ∧
      ∀ n ∈ (v.proceed r).2.2, n.isAside r.verbose = true := by
  have drained (w : Visitor) : (drain r w).1.verbose = r.verbose ∧
      ∀ n ∈ (drain r w).2.2, n.isAside r.verbose = true := by
    rw [drain_eq]
    refine ⟨rfl, fun n member => ?_⟩
    obtain taken | ending := List.mem_append.mp member
    · exact isAside_noticesOf r _ _ taken
    · exact isAside_conclude r.verbose _ _ ending
  unfold proceed
  split
  · refine ⟨(drained _).1, fun n member => ?_⟩
    obtain rfl | later := List.mem_cons.mp member
    · simp [Notice.isAside, newNotice]
    · exact (drained _).2 n later
  · exact drained v
  · exact ⟨rfl, nofun⟩

end Visitor

namespace Inbox

/-- The listener without its connections and without what its receiver has counted. -/
def emptied (i : Inbox) : Inbox :=
  { i with receiver := { verbose := false }, visitors := [], woken := [] }

/-- What connections do to a listener, and what they note. -/
structure Within (i j : Inbox) (notices : List Notice) : Prop where
  emptied : j.emptied = i.emptied
  woken : j.woken.length ≤ i.woken.length
  verbose : j.receiver.verbose = i.receiver.verbose
  asides : ∀ n ∈ notices, n.isAside i.receiver.verbose = true

theorem Within.trans {i j k : Inbox} {first second : List Notice} (before : i.Within j first)
    (after : j.Within k second) : i.Within k (first ++ second) where
  emptied := after.emptied.trans before.emptied
  woken := Nat.le_trans after.woken before.woken
  verbose := after.verbose.trans before.verbose
  asides n member := by
    obtain early | late := List.mem_append.mp member
    · exact before.asides n early
    · rw [← before.verbose]
      exact after.asides n late

theorem within_proceed (i : Inbox) : i.Within i.proceed.1 i.proceed.2 := by
  unfold proceed
  split
  · exact ⟨rfl, Nat.le_refl _, rfl, nofun⟩
  · next woken =>
    split
    · exact ⟨rfl, by simp [woken], rfl, nofun⟩
    · next v _ =>
      obtain ⟨verbose, asides⟩ := v.proceed_aside i.receiver
      exact ⟨rfl, by simp [woken], verbose, asides⟩

/-- Each turn uses up one of those that are to come. -/
theorem length_woken_proceed (i : Inbox) (busy : i.hasWoken = true) :
    i.proceed.1.woken.length < i.woken.length := by
  unfold hasWoken at busy
  unfold proceed
  split
  · next none => simp [none] at busy
  · next woken => split <;> simp [woken]

theorem within_proceedTimes (turns : Nat) (i : Inbox) :
    i.Within (proceedTimes turns i).1 (proceedTimes turns i).2 := by
  induction turns generalizing i with
  | zero => exact ⟨rfl, Nat.le_refl _, rfl, nofun⟩
  | succ turns ih => exact i.within_proceed.trans (ih i.proceed.1)

theorem within_settle (i : Inbox) : i.Within i.settle.1 i.settle.2 :=
  i.within_proceedTimes i.woken.length

theorem emptied_accept (i : Inbox) (name : String) (peer : Peer) (closeFault : Option Fault) :
    (i.accept name peer closeFault).emptied = i.emptied ∧
      (i.accept name peer closeFault).receiver = i.receiver := by
  unfold accept
  split <;> exact ⟨rfl, rfl⟩

theorem emptied_deliver (i : Inbox) (name : String) (event : Event) :
    (i.deliver name event).emptied = i.emptied ∧ (i.deliver name event).receiver = i.receiver := by
  unfold deliver
  split <;> exact ⟨rfl, rfl⟩

theorem isAside_closeReading (verbose : Bool) (visitors : List Visitor) :
    ∀ n ∈ (closeReading visitors).2, n.isAside verbose = true := by
  induction visitors with
  | nil => nofun
  | cons v rest ih =>
    intro n member
    unfold closeReading at member
    dsimp only at member
    split at member
    · obtain closing | others := List.mem_append.mp member
      · exact v.isAside_close verbose closing
      · exact ih n others
    · exact ih n member

/-- Stopping a listener closes connections, and is the same otherwise as if it had none. -/
theorem stop_emptied (i : Inbox) :
    i.emptied.stop.1 = i.stop.1.emptied ∧ ∃ asides, i.stop.2 = asides ++ i.emptied.stop.2 ∧
      ∀ verbose, ∀ n ∈ asides, n.isAside verbose = true := by
  unfold stop
  cases bound : i.bound with
  | none => simp [emptied, bound]
  | some port =>
    simp only [emptied, bound, closeReading, List.nil_append]
    exact ⟨trivial, _, rfl, fun verbose => isAside_closeReading verbose _⟩

end Inbox

end BurstLoad
