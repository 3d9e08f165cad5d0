import BurstLoad.Inbox.Basic

/-! What starting and stopping a listener change, and what they leave. Its connections do not change
whether it is bound. -/

set_option autoImplicit false

namespace BurstLoad.Inbox

theorem bound_proceed (i : Inbox) : i.proceed.1.bound = i.bound := by
  unfold proceed
  split
  · rfl
  · split <;> rfl

theorem bound_proceedTimes (turns : Nat) (i : Inbox) :
    (proceedTimes turns i).1.bound = i.bound := by
  induction turns generalizing i with
  | zero => rfl
  | succ turns ih => exact (ih i.proceed.1).trans i.bound_proceed

theorem bound_accept (i : Inbox) (name : String) (peer : Peer) (closeFault : Option Fault) :
    (i.accept name peer closeFault).bound = i.bound := by
  unfold accept
  split <;> rfl

theorem bound_deliver (i : Inbox) (name : String) (event : Event) :
    (i.deliver name event).bound = i.bound := by
  unfold deliver
  split <;> rfl

/-- What is found under a name is the connection at its place. -/
theorem visitor_of_found {i : Inbox} {name : String} {v : Visitor} {place : Nat}
    (found : (i.visitors.zipIdx.reverse.find? fun p => p.1.name == name) = some (v, place)) :
    i.visitors[place]? = some v := by
  have member := List.mem_of_find?_eq_some found
  rwa [List.mem_reverse, List.mem_zipIdx_iff_getElem?] at member

theorem start_of_fault (i : Inbox) {n : Network} {fault : Fault}
    (refused : n.bindFault = some fault) :
    i.start n = (i, (n.bind ⟨i.host, i.port⟩).1, some fault, []) := by
  simp only [start, Network.bind, refused]

theorem start_of_free (i : Inbox) {n : Network} (granted : n.bindFault = none) :
    i.start n = ({ i with bound := some (n.boundPort i.port) }, (n.bind ⟨i.host, i.port⟩).1, none,
      [listeningNotice i.host (n.boundPort i.port)]) := by
  simp only [start, Network.bind, granted]

theorem bound_stop (i : Inbox) : i.stop.1.bound = none := by
  unfold stop
  split
  · next none => exact none
  · rfl

theorem receiver_stop (i : Inbox) : i.stop.1.receiver = i.receiver := by
  unfold stop
  split <;> rfl

theorem woken_stop (i : Inbox) : i.stop.1.woken = i.woken := by
  unfold stop
  split <;> rfl

end BurstLoad.Inbox
