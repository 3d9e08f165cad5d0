import BurstLoad.Gate.Basic

/-! What the probes of a gate do to the network. Each attempt is counted with its probe, and a node
whose probe came through has accepted a connection. -/

set_option autoImplicit false

namespace BurstLoad

namespace Network

/-- How often a network was tried at an endpoint. -/
def attemptsAt (n : Network) (e : Endpoint) : Nat :=
  n.attempts.toList.countP fun attempt => attempt.2 = e

/-- A connection that a probe opened was accepted. -/
def HasAccepted (n : Network) (e : Endpoint) : Prop :=
  ∃ wire ∈ n.probed, wire.address = e

/-- The tries that tell which plan comes next are the attempts that were made. -/
def IsCounted (n : Network) : Prop :=
  ∀ e, n.triesOf e = n.attemptsAt e

theorem find?_countTry (tries : List (Endpoint × Nat)) (e f : Endpoint) :
    (((countTry e tries).find? fun t => t.1 == f).map Prod.snd).getD 0 =
      ((tries.find? fun t => t.1 == f).map Prod.snd).getD 0 + if e = f then 1 else 0 := by
  induction tries with
  | nil => by_cases same : e = f <;> simp [countTry, same]
  | cons first rest ih =>
    obtain ⟨g, k⟩ := first
    rw [countTry]
    by_cases own : g = e
    · by_cases same : e = f <;> simp [own, same]
    · by_cases here : g = f
      · subst here
        simp [own, Ne.symm own]
      · simp [own, here, ih]

theorem attemptsAt_attempt (n : Network) (now : Time) (e f : Endpoint) :
    (n.attempt now e).1.attemptsAt f = n.attemptsAt f + if e = f then 1 else 0 := by
  simp [attempt, attemptsAt, List.countP_append, List.countP_singleton]

theorem IsCounted.attempt {n : Network} (counted : n.IsCounted) (now : Time) (e : Endpoint) :
    (n.attempt now e).1.IsCounted := by
  intro f
  rw [attemptsAt_attempt, ← counted f]
  exact find?_countTry n.tries e f

/-- What probes do not touch in a network, and what they only add to. -/
structure Grows (n m : Network) : Prop where
  plan : m.plan = n.plan
  bindFault : m.bindFault = n.bindFault
  binds : m.binds = n.binds
  counted : n.IsCounted → m.IsCounted
  accepted : ∀ e, n.HasAccepted e → m.HasAccepted e

theorem Grows.refl (n : Network) : n.Grows n :=
  ⟨rfl, rfl, rfl, id, fun _ => id⟩

theorem Grows.trans {n m k : Network} (first : n.Grows m) (second : m.Grows k) : n.Grows k where
  plan := second.plan.trans first.plan
  bindFault := second.bindFault.trans first.bindFault
  binds := second.binds.trans first.binds
  counted counted := second.counted (first.counted counted)
  accepted e accepted := second.accepted e (first.accepted e accepted)

/-- The listening socket was bound. -/
structure HasBound (n : Network) : Prop where
  asked : n.binds ≠ #[]
  granted : n.bindFault = none

theorem Grows.hasBound_iff {n m : Network} (grows : n.Grows m) :
    m.HasBound ↔ n.HasBound := by
  constructor
  · intro ⟨asked, granted⟩
    exact ⟨grows.binds ▸ asked, grows.bindFault ▸ granted⟩
  · intro ⟨asked, granted⟩
    exact ⟨by rw [grows.binds]; exact asked, by rw [grows.bindFault]; exact granted⟩

theorem grows_attempt (n : Network) (now : Time) (e : Endpoint) : n.Grows (n.attempt now e).1 :=
  ⟨rfl, rfl, rfl, fun counted => counted.attempt now e, fun _ => id⟩

theorem grows_openAndClose (n : Network) (e : Endpoint) (plan : WirePlan) :
    n.Grows (n.openAndClose e plan).1 := by
  refine ⟨rfl, rfl, rfl, id, ?_⟩
  intro f ⟨wire, member, same⟩
  exact ⟨wire, Array.mem_push_of_mem _ member, same⟩

theorem hasAccepted_openAndClose (n : Network) (e : Endpoint) (plan : WirePlan) :
    (n.openAndClose e plan).1.HasAccepted e :=
  ⟨_, Array.mem_push_self, rfl⟩

end Network

namespace Probe

/-- How often a probe tried an endpoint. -/
def attemptsAt (p : Probe) (e : Endpoint) : Nat :=
  if p.peer = e then p.attempts else 0

/-- What one step of a probe does to it and to the network. -/
structure Step (n : Network) (p : Probe) (m : Network) (q : Probe) : Prop where
  grows : n.Grows m
  peer : q.peer = p.peer
  attempts : ∀ e, m.attemptsAt e + p.attemptsAt e = n.attemptsAt e + q.attemptsAt e
  accepted : q.isOnline = true → p.isOnline = true ∨ m.HasAccepted p.peer

theorem step_knock (p : Probe) (now : Time) (n : Network) :
    Step n p (p.knock now n).2 (p.knock now n).1 := by
  refine ⟨n.grows_attempt now p.peer, rfl, fun e => ?_, fun online => nomatch online⟩
  have counted := n.attemptsAt_attempt now p.peer e
  by_cases own : p.peer = e <;> simp [attemptsAt, knock, own] at counted ⊢ <;> omega

theorem step_miss (p : Probe) (retry : Span) (now : Time) (fault : Fault) (n : Network) :
    Step n p n (p.miss retry now fault).1 := by
  unfold miss
  split <;> exact ⟨.refl n, rfl, fun _ => rfl, fun online => nomatch online⟩

theorem step_hit (p : Probe) (plan : Network.WirePlan) (n : Network) :
    Step n p (p.hit plan n).2.1 (p.hit plan n).1 := by
  have grows := n.grows_openAndClose p.peer plan
  have accepted := n.hasAccepted_openAndClose p.peer plan
  have attempts (e : Endpoint) : (n.openAndClose p.peer plan).1.attemptsAt e = n.attemptsAt e := rfl
  unfold hit
  split
  · next opened =>
    rw [opened] at grows accepted attempts
    exact ⟨grows, rfl, fun e => congrArg (· + _) (attempts e), fun _ => .inr accepted⟩
  · next opened =>
    rw [opened] at grows accepted attempts
    split
    · exact ⟨grows, rfl, fun e => congrArg (· + _) (attempts e), fun _ => .inr accepted⟩
    · exact ⟨grows, rfl, fun e => congrArg (· + _) (attempts e), fun _ => .inr accepted⟩

/-- Whatever a probe does, its attempts are the network's, and it comes through only where it was
accepted. -/
theorem step_act (p : Probe) (retry : Span) (now : Time) (n : Network) :
    Step n p (p.act retry now n).2.1 (p.act retry now n).1 := by
  unfold act
  split
  · exact p.step_knock now n
  · exact p.step_knock now n
  · exact p.step_miss retry now _ n
  · exact p.step_hit _ n
  · exact ⟨.refl n, rfl, fun _ => rfl, .inl⟩
  · exact ⟨.refl n, rfl, fun _ => rfl, .inl⟩
  · exact ⟨.refl n, rfl, fun _ => rfl, .inl⟩

theorem act_of_isOver {p : Probe} (finished : p.isOver = true) (retry : Span) (now : Time)
    (n : Network) : p.act retry now n = (p, n, []) := by
  unfold isOver at finished
  split at finished
  · next stage => rw [act, stage]
  · next stage => rw [act, stage]
  · next stage => rw [act, stage]
  · cases finished

theorem isOver_of_isOnline {p : Probe} (online : p.isOnline = true) : p.isOver = true := by
  unfold isOnline at online
  split at online
  · next stage => rw [isOver, stage]
  · cases online

theorem isOnline_cancel (p : Probe) : p.cancel.isOnline = p.isOnline := by
  unfold cancel
  split
  · rfl
  · next going =>
    cases stage : p.stage <;> simp [isOver, isOnline, stage] at going ⊢

theorem peer_cancel (p : Probe) : p.cancel.peer = p.peer := by
  unfold cancel
  split <;> rfl

theorem attemptsAt_cancel (p : Probe) (e : Endpoint) : p.cancel.attemptsAt e = p.attemptsAt e := by
  unfold cancel
  split <;> rfl

end Probe

namespace Gate

/-- How often the probes of a gate tried an endpoint. -/
def attemptsAt (g : Gate) (e : Endpoint) : Nat :=
  g.probes.foldr (fun p count => p.attemptsAt e + count) 0

/-- All probes of a gate came through. -/
def IsOpen (g : Gate) : Prop :=
  ∀ p ∈ g.probes, p.isOnline = true

/-- Each probe that came through was accepted by its node. -/
def IsHonest (g : Gate) (n : Network) : Prop :=
  ∀ p ∈ g.probes, p.isOnline = true → n.HasAccepted p.peer

theorem peers_ofPeers (peers : List Endpoint) (retry : Span) (now : Time) :
    (ofPeers peers retry now).probes.map Probe.peer = peers := by
  simp [ofPeers, Function.comp_def]

theorem attemptsAt_ofPeers (peers : List Endpoint) (retry : Span) (now : Time) (e : Endpoint) :
    (ofPeers peers retry now).attemptsAt e = 0 := by
  induction peers with
  | nil => rfl
  | cons peer peers ih =>
    simp only [attemptsAt, ofPeers, List.map_cons, List.foldr_cons, Probe.attemptsAt,
      ite_self] at ih ⊢
    rw [ih]

theorem isHonest_ofPeers (peers : List Endpoint) (retry : Span) (now : Time) (n : Network) :
    (ofPeers peers retry now).IsHonest n := by
  intro p member online
  obtain ⟨peer, -, rfl⟩ := List.mem_map.mp member
  cases online

/-- What a step of a gate does to it and to the network. -/
structure Step (n : Network) (g : Gate) (m : Network) (g' : Gate) : Prop where
  grows : n.Grows m
  peers : g'.probes.map Probe.peer = g.probes.map Probe.peer
  attempts : ∀ e, m.attemptsAt e + g.attemptsAt e = n.attemptsAt e + g'.attemptsAt e
  honest : g.IsHonest n → g'.IsHonest m

theorem actOn_cons (retry : Span) (due : Wake) (now : Time) (n : Network) (p : Probe)
    (rest : List Probe) : actOn retry due now n (p :: rest) =
      if p.wake = due then
        ((p.act retry now n).1 :: rest, (p.act retry now n).2)
      else (p :: (actOn retry due now n rest).1, (actOn retry due now n rest).2) := by
  rw [actOn]

theorem step_actOn (retry : Span) (due : Wake) (now : Time) (n : Network) (probes : List Probe) :
    Step n ⟨retry, probes⟩ (actOn retry due now n probes).2.1
      ⟨retry, (actOn retry due now n probes).1⟩ := by
  induction probes with
  | nil => exact ⟨.refl n, rfl, fun _ => rfl, id⟩
  | cons p rest ih =>
    rw [actOn_cons]
    split
    · have step := p.step_act retry now n
      refine ⟨step.grows, by simp [step.peer], fun e => ?_, fun honest q member online => ?_⟩
      · have attempts := step.attempts e
        simp only [attemptsAt, List.foldr_cons]
        omega
      · obtain rfl | other := List.mem_cons.mp member
        · rw [step.peer]
          obtain before | accepted := step.accepted online
          · exact step.grows.accepted _ (honest p List.mem_cons_self before)
          · exact accepted
        · exact step.grows.accepted _ (honest q (List.mem_cons_of_mem p other) online)
    · refine ⟨ih.grows, by simpa using ih.peers, fun e => ?_, fun honest q member online => ?_⟩
      · have attempts := ih.attempts e
        simp only [attemptsAt, List.foldr_cons] at attempts ⊢
        omega
      · obtain rfl | other := List.mem_cons.mp member
        · exact ih.grows.accepted _ (honest _ List.mem_cons_self online)
        · have behind : IsHonest ⟨retry, rest⟩ n := fun r known =>
            honest r (List.mem_cons_of_mem p known)
          exact ih.honest behind q other online

theorem step_act (g : Gate) (now : Time) (n : Network) :
    Step n g (g.act now n).2.1 (g.act now n).1 :=
  step_actOn g.retry g.wake now n g.probes

/-- Nothing is left to do at a gate whose probes are all done. -/
theorem act_of_isOver {g : Gate} (finished : ∀ p ∈ g.probes, p.isOver = true) (now : Time) (n : Network) :
    g.act now n = (g, n, []) := by
  have still (due : Wake) (probes : List Probe) (finished : ∀ p ∈ probes, p.isOver = true) :
      actOn g.retry due now n probes = (probes, n, []) := by
    induction probes with
    | nil => rfl
    | cons p rest ih =>
      rw [actOn_cons, Probe.act_of_isOver (finished p List.mem_cons_self),
        ih fun q member => finished q (List.mem_cons_of_mem p member), ite_self]
  rw [act, still g.wake g.probes finished]

theorem act_of_isOpen {g : Gate} (isOpen : g.IsOpen) (now : Time) (n : Network) :
    g.act now n = (g, n, []) :=
  act_of_isOver (fun p member => Probe.isOver_of_isOnline (isOpen p member)) now n

theorem isOpen_of_verdict? {g : Gate} (verdict : g.verdict? = some (.ok ())) : g.IsOpen := by
  unfold verdict? at verdict
  split at verdict
  · cases verdict
  · split at verdict
    · next online =>
      intro p member
      exact List.all_eq_true.mp online p member
    · cases verdict

theorem attemptsAt_cancel (g : Gate) (e : Endpoint) : g.cancel.attemptsAt e = g.attemptsAt e := by
  simp only [attemptsAt, cancel, List.foldr_map, Probe.attemptsAt_cancel]

theorem IsHonest.cancel {g : Gate} {n : Network} (honest : g.IsHonest n) :
    g.cancel.IsHonest n := by
  intro p member online
  obtain ⟨q, known, rfl⟩ := List.mem_map.mp member
  rw [q.peer_cancel]
  rw [q.isOnline_cancel] at online
  exact honest q known online

theorem peers_cancel (g : Gate) : g.cancel.probes.map Probe.peer = g.probes.map Probe.peer := by
  simp only [cancel, List.map_map]
  congr 1
  funext p
  exact p.peer_cancel

end Gate

end BurstLoad
