import BurstLoad.Proofs.Rest

/-! Machines with a part behind a veil. Some inputs reach nothing but that part; what goes on there
takes no time and leaves what is in front of the veil alone. A simulation then shows the same as the
one without these inputs, and so do any two that differ in them only. -/

set_option autoImplicit false

namespace BurstLoad

/-- The entries of a journal with such notices. -/
def Journal.heard (shows : Notice → Bool) (j : Journal) : List Entry :=
  j.toList.filter fun entry => shows entry.notice

theorem Journal.toList_record (j : Journal) (time : Time) (notices : List Notice) :
    (j.record time notices).toList = j.toList ++ notices.map (Entry.mk time) := by
  induction notices generalizing j with
  | nil => simp [record]
  | cons notice rest ih =>
    rw [record, List.foldl_cons, ← record, ih]
    simp

theorem Journal.heard_record (shows : Notice → Bool) (j : Journal) (time : Time)
    (notices : List Notice) : (j.record time notices).heard shows =
      j.heard shows ++ (notices.filter shows).map (Entry.mk time) := by
  rw [heard, toList_record, List.filter_append, List.filter_map]
  rfl

variable {σ ι : Type}

/-- What is in front of a veil: how a state looks from there, and what shows of inputs and notices.
Behind it there are so many acts still to come. -/
structure Veil (σ ι : Type) where
  look : σ → σ
  hides : ι → Bool
  shows : Notice → Bool
  load : σ → Nat
  -- what is known of the states
  sound : σ → Prop

namespace Veil

/-- An act behind the veil, of which nothing shows. -/
structure IsHidden (v : Veil σ ι) (m : Machine σ ι) (now : Time) (s : σ) : Prop where
  load : v.load (m.act now s).1 < v.load s
  look : v.look (m.act now s).1 = v.look s
  notices : (m.act now s).2.filter v.shows = []

/-- An act in front of the veil, which is due there too. -/
structure IsShown (v : Veil σ ι) (m : Machine σ ι) (now : Time) (s : σ) : Prop where
  load : v.load (m.act now s).1 ≤ v.load s
  look : (m.act now (v.look s)).1 = v.look (m.act now s).1
  notices : (m.act now (v.look s)).2.filter v.shows = (m.act now s).2.filter v.shows
  due : v.load s = 0 ∨ (m.wake (v.look s)).moment? now = some now

/-- A veil that parts a machine. -/
structure Parts (v : Veil σ ι) (m : Machine σ ι) : Prop where
  sound_act : ∀ now s, v.sound s → v.sound (m.act now s).1
  sound_take : ∀ now input s, v.sound s → v.sound (m.take now input s).1
  wake_of_load : ∀ s, v.load s ≠ 0 → m.wake s = .running
  wake : ∀ s, v.load s = 0 → m.wake (v.look s) = m.wake s
  act : ∀ now s, v.sound s → v.IsHidden m now s ∨ v.IsShown m now s
  hidden : ∀ now input s, v.hides input = true → v.look (m.take now input s).1 = v.look s ∧
    (m.take now input s).2.filter v.shows = []
  shown : ∀ now input s, v.sound s → v.hides input = false →
    (m.take now input (v.look s)).1 = v.look (m.take now input s).1 ∧
    (m.take now input (v.look s)).2.filter v.shows = (m.take now input s).2.filter v.shows

/-- The inputs that are not hidden. -/
def visible (v : Veil σ ι) (inputs : List (Time × ι)) : List (Time × ι) :=
  inputs.filter fun input => !v.hides input.2

open Simulation

/-- A simulation shows what another one does, which goes without the hidden inputs. -/
structure Agrees (v : Veil σ ι) (a q : Simulation σ ι) : Prop where
  state : q.state = v.look a.state
  inputs : q.inputs = v.visible a.inputs
  sorted : a.inputs.Pairwise fun first second => first.1 ≤ second.1
  journal : q.journal.heard v.shows = a.journal.heard v.shows
  sound : v.sound a.state

/-- A simulation goes along with one without the hidden inputs. Its clock may have run on, but not
beyond anything that the other has to do, and inputs come after all that goes on behind the veil. -/
structure Tracks (v : Veil σ ι) (m : Machine σ ι) (limit : Time) (a q : Simulation σ ι) : Prop
    extends v.Agrees a q where
  now : q.now ≤ a.now
  inTime : a.now ≤ limit
  moment : (m.wake q.state).moment? q.now = (m.wake q.state).moment? a.now
  coming : ∀ input ∈ q.inputs, q.now.later input.1 = a.now.later input.1
  pending : v.load a.state ≠ 0 → ∀ input ∈ a.inputs, a.now < input.1

section Tracks

variable {v : Veil σ ι} {m : Machine σ ι} {limit : Time} {a q : Simulation σ ι}

theorem Agrees.mem_inputs (agrees : v.Agrees a q) {input : Time × ι} (member : input ∈ q.inputs) :
    input ∈ a.inputs := by
  rw [agrees.inputs] at member
  exact (List.mem_filter.mp member).1

/-- No input comes before the first one. -/
theorem Agrees.late_of_head (agrees : v.Agrees a q) (due : Time)
    (head : ∀ input ∈ a.inputs.head?, due < input.1) : ∀ input ∈ a.inputs, due < input.1 := by
  intro input member
  obtain ⟨first, rest, coming⟩ := List.exists_cons_of_ne_nil (List.ne_nil_of_mem member)
  have sorted := agrees.sorted
  have early := head first (by rw [coming]; rfl)
  rw [coming] at sorted member
  obtain rfl | behind := List.mem_cons.mp member
  · exact early
  · exact Std.lt_of_lt_of_le early (List.rel_of_pairwise_cons sorted behind)

theorem Agrees.taken_hidden (parts : v.Parts m) (agrees : v.Agrees a q) {first : Time × ι}
    {rest : List (Time × ι)} (coming : a.inputs = first :: rest)
    (hidden : v.hides first.2 = true) (now : Time) :
    v.Agrees (a.taken m now first.2 rest) q := by
  obtain ⟨look, notices⟩ := parts.hidden now first.2 a.state hidden
  have sorted := agrees.sorted
  rw [coming] at sorted
  refine ⟨agrees.state.trans look.symm, ?_, sorted.of_cons, ?_,
    parts.sound_take now first.2 a.state agrees.sound⟩
  · rw [agrees.inputs, coming, visible, List.filter_cons_of_neg (by simp [hidden])]
    rfl
  · rw [agrees.journal, taken, Journal.heard_record, notices, List.map_nil, List.append_nil]

theorem Agrees.taken_shown (parts : v.Parts m) (agrees : v.Agrees a q) {first : Time × ι}
    {rest : List (Time × ι)} (coming : a.inputs = first :: rest)
    (shown : v.hides first.2 = false) (now : Time) :
    q.inputs = first :: v.visible rest ∧
      v.Agrees (a.taken m now first.2 rest) (q.taken m now first.2 (v.visible rest)) := by
  obtain ⟨look, notices⟩ := parts.shown now first.2 a.state agrees.sound shown
  have sorted := agrees.sorted
  rw [coming] at sorted
  refine ⟨?_, ?_, rfl, sorted.of_cons, ?_, parts.sound_take now first.2 a.state agrees.sound⟩
  · rw [agrees.inputs, coming, visible, List.filter_cons_of_pos (by simp [shown])]
    rfl
  · rw [taken, agrees.state]
    exact look
  · rw [taken, taken, Journal.heard_record, Journal.heard_record, agrees.journal, agrees.state,
      notices]

/-- Two simulations whose clocks show the same. -/
theorem Agrees.tracks (agrees : v.Agrees a q) (now : q.now = a.now) (inTime : a.now ≤ limit)
    (pending : v.load a.state ≠ 0 → ∀ input ∈ a.inputs, a.now < input.1) :
    v.Tracks m limit a q where
  toAgrees := agrees
  now := now ▸ Rat.le_refl
  inTime := inTime
  moment := by rw [now]
  coming _ _ := by rw [now]
  pending := pending

/-- What is taken on both sides at one moment, and what is left for later. -/
theorem Agrees.takenAll (parts : v.Parts m) (agrees : v.Agrees a q) (now : Time) :
    v.Agrees (a.takenAll m now a.inputs) (q.takenAll m now q.inputs) ∧
      ∀ input ∈ (a.takenAll m now a.inputs).inputs, now < input.1 := by
  generalize coming : a.inputs = inputs
  induction inputs generalizing a q with
  | nil =>
    have none : q.inputs = [] := by rw [agrees.inputs, coming]; rfl
    rw [none]
    refine ⟨agrees, fun input member => ?_⟩
    rw [Simulation.takenAll, coming] at member
    cases member
  | cons first rest ih =>
    rw [Simulation.takenAll]
    by_cases due : first.1 ≤ now
    · rw [if_pos due]
      cases hidden : v.hides first.2 with
      | true => exact ih (agrees.taken_hidden parts coming hidden now) rfl
      | false =>
        obtain ⟨same, further⟩ := agrees.taken_shown parts coming hidden now
        rw [same, Simulation.takenAll, if_pos due]
        exact ih further rfl
    · rw [if_neg due]
      have late := agrees.late_of_head now fun input member => by
        rw [coming] at member
        cases member
        exact Rat.not_le.mp due
      rw [takenAll_of_late]
      · exact ⟨agrees, late⟩
      · intro input member
        exact late input (agrees.mem_inputs (List.mem_of_head? member))

/-- Behind the veil the clock stands still. -/
theorem Tracks.act_hidden (parts : v.Parts m) (tracks : v.Tracks m limit a q)
    (hidden : v.IsHidden m a.now a.state) :
    v.Tracks m limit ⟨a.now, (m.act a.now a.state).1, a.inputs,
      a.journal.record a.now (m.act a.now a.state).2⟩ q where
  toAgrees := by
    refine ⟨tracks.state.trans hidden.look.symm, tracks.inputs, tracks.sorted, ?_,
      parts.sound_act a.now a.state tracks.sound⟩
    rw [tracks.journal, Journal.heard_record, hidden.notices, List.map_nil, List.append_nil]
  now := tracks.now
  inTime := tracks.inTime
  moment := tracks.moment
  coming := tracks.coming
  pending _ := tracks.pending (Nat.ne_of_gt (Nat.zero_lt_of_lt hidden.load))

/-- In front of the veil both act at the same moment. -/
theorem Tracks.act_shown (parts : v.Parts m) (tracks : v.Tracks m limit a q) {due : Time}
    (shown : v.IsShown m due a.state) (soon : due ≤ limit)
    (wakes : (m.wake q.state).moment? a.now = some due)
    (late : m.wake q.state = .running ∨ ∀ input ∈ a.inputs, due < input.1)
    (pending : v.load a.state ≠ 0 → ∀ input ∈ a.inputs, due < input.1) :
    ∃ q', q.step? m limit = some q' ∧ v.Tracks m limit ⟨due, (m.act due a.state).1, a.inputs,
      a.journal.record due (m.act due a.state).2⟩ q' := by
  have step := step?_of_wakes m (tracks.moment.trans wakes) soon (late.imp_right fun late input
    member => late input (tracks.mem_inputs (List.mem_of_head? member)))
  refine ⟨_, step, Agrees.tracks ⟨?_, tracks.inputs, tracks.sorted, ?_,
    parts.sound_act due a.state tracks.sound⟩ rfl soon fun busy => pending ?_⟩
  · rw [tracks.state]
    exact shown.look
  · rw [Journal.heard_record, Journal.heard_record, tracks.journal, tracks.state, shown.notices]
  · have bound := shown.load
    dsimp only at busy
    omega

theorem Parts.load_eq_zero (parts : v.Parts m) {s : σ} (waits : m.wake s ≠ .running) :
    v.load s = 0 := by
  apply Decidable.byContradiction
  exact fun busy => waits (parts.wake_of_load s busy)

theorem Tracks.wake_eq (parts : v.Parts m) (tracks : v.Tracks m limit a q)
    (idle : v.load a.state = 0) : m.wake q.state = m.wake a.state := by
  rw [tracks.state]
  exact parts.wake a.state idle

/-- The clock runs on as long as nothing in front of the veil is due. -/
theorem Tracks.wait {b : Simulation σ ι} (tracks : v.Tracks m limit a q) (agrees : v.Agrees b q)
    (onward : a.now ≤ b.now) (inTime : b.now ≤ limit) (waits : m.wake q.state ≠ .running)
    (before : ∀ due, (m.wake q.state).moment? a.now = some due → b.now ≤ due)
    (late : ∀ input ∈ b.inputs, b.now < input.1) : v.Tracks m limit b q where
  toAgrees := agrees
  now := Rat.le_trans tracks.now onward
  inTime := inTime
  moment := tracks.moment.trans (Wake.moment?_of_le waits onward before).symm
  coming input member := by
    have behind := Rat.le_of_lt (late input (agrees.mem_inputs member))
    rw [Time.later_of_le behind,
      Time.later_of_le (Rat.le_trans (Rat.le_trans tracks.now onward) behind)]
  pending _ := late

/-- An input that shows and is taken with the first one of all is of the same instant. -/
theorem Tracks.later_eq (tracks : v.Tracks m limit a q) {first input : Time × ι}
    {rest : List (Time × ι)} (coming : a.inputs = first :: rest) (member : input ∈ q.inputs)
    (due : input.1 ≤ a.now.later first.1) : q.now.later input.1 = a.now.later first.1 := by
  have sorted := tracks.sorted
  have known := tracks.mem_inputs member
  rw [coming] at sorted known
  have early : first.1 ≤ input.1 := by
    obtain rfl | behind := List.mem_cons.mp known
    · exact Rat.le_refl
    · exact List.rel_of_pairwise_cons sorted behind
  rw [tracks.coming input member]
  apply Rat.le_antisymm
  · exact Time.later_le (a.now.le_later_left first.1) due
  · exact Time.later_le (a.now.le_later_left input.1)
      (Rat.le_trans early (a.now.le_later_right input.1))

/-- What of the inputs of a moment shows is taken on both sides; if nothing does, only the clock
runs on. -/
theorem Tracks.take (parts : v.Parts m) (tracks : v.Tracks m limit a q) {first : Time × ι}
    {rest : List (Time × ι)} (waits : m.wake a.state ≠ .running) (coming : a.inputs = first :: rest)
    (soon : first.1 ≤ limit)
    (early : ∀ due, (m.wake a.state).moment? a.now = some due → first.1 ≤ due) :
    v.Tracks m limit (a.takenAll m (a.now.later first.1) a.inputs) q ∨
      ∃ q', q.step? m limit = some q' ∧
        v.Tracks m limit (a.takenAll m (a.now.later first.1) a.inputs) q' := by
  have wake := tracks.wake_eq parts (parts.load_eq_zero waits)
  rw [← wake] at waits early
  have inTime := Time.later_le tracks.inTime soon
  have clock : (a.takenAll m (a.now.later first.1) a.inputs).now = a.now.later first.1 :=
    now_takenAll_of_le m (by rw [coming]; rfl) (a.now.le_later_right first.1)
  have before (due : Time) (wakes : (m.wake q.state).moment? a.now = some due) :
      a.now.later first.1 ≤ due :=
    Time.later_le (Wake.le_of_moment? wakes) (early due wakes)
  obtain ⟨agrees, late⟩ := tracks.toAgrees.takenAll parts (a.now.later first.1)
  by_cases later : ∀ input ∈ q.inputs.head?, a.now.later first.1 < input.1
  · left
    rw [takenAll_of_late m later] at agrees
    apply tracks.wait agrees ?_ ?_ waits
    · rw [clock]
      exact before
    · rw [clock]
      exact late
    · rw [clock]
      exact a.now.le_later_left first.1
    · rw [clock]
      exact inTime
  · right
    simp only [Classical.not_forall, Rat.not_lt] at later
    obtain ⟨head, member, due⟩ := later
    obtain ⟨others, listing⟩ := List.head?_eq_some_iff.mp member
    have step := step?_of_input m waits listing (Rat.le_trans due inTime) fun moment wakes =>
      Rat.le_trans due (before moment (tracks.moment.symm.trans wakes))
    rw [tracks.later_eq coming (List.mem_of_head? member) due] at step
    refine ⟨_, step, agrees.tracks ?_ ?_ fun _ => ?_⟩
    · rw [clock]
      exact now_takenAll_of_le m member due
    · rw [clock]
      exact inTime
    · rw [clock]
      exact late

/-- How much is left that may not show. -/
def left (v : Veil σ ι) (a : Simulation σ ι) : Nat × Nat :=
  (a.inputs.length, v.load a.state)

/-- With each step the other simulation makes one as well, or less is left that does not show. -/
theorem Tracks.step (parts : v.Parts m) (tracks : v.Tracks m limit a q) {next : Simulation σ ι}
    (step : a.step? m limit = some next) :
    (v.Tracks m limit next q ∧ Prod.Lex (· < ·) (· < ·) (v.left next) (v.left a)) ∨
      ∃ q', q.step? m limit = some q' ∧ v.Tracks m limit next q' := by
  obtain ⟨time, rfl, ⟨running, rfl⟩ | ⟨waking, soon, late⟩⟩ | ⟨waits, first, rest, coming, soon,
    early, rfl⟩ := step?_cases m step
  · have same : a.now.later a.now = a.now := Time.later_of_le Rat.le_refl
    rw [acted, same]
    obtain hidden | shown := parts.act a.now a.state tracks.sound
    · exact .inl ⟨tracks.act_hidden parts hidden, .right _ hidden.load⟩
    · right
      by_cases idle : v.load a.state = 0
      · have wake := (tracks.wake_eq parts idle).trans running
        exact tracks.act_shown parts shown tracks.inTime (by rw [wake]; rfl) (.inl wake)
          fun busy => absurd idle busy
      · have pending := tracks.pending idle
        refine tracks.act_shown parts shown tracks.inTime ?_ (.inr pending) fun _ => pending
        rw [tracks.state]
        exact shown.due.resolve_left idle
  · have idle := parts.load_eq_zero (s := a.state) (by simp [waking])
    obtain hidden | shown := parts.act (a.now.later time) a.state tracks.sound
    · exact absurd hidden.load (by omega)
    · right
      refine tracks.act_shown parts shown (Time.later_le tracks.inTime soon) ?_ (.inr ?_)
        fun busy => absurd idle busy
      · rw [tracks.wake_eq parts idle, waking]
        rfl
      · exact tracks.late_of_head _ fun input member => Rat.not_le.mp (late input member)
  · have before (due : Time) (wakes : (m.wake a.state).moment? a.now = some due) :
        first.1 ≤ due := by
      cases wake : m.wake a.state with
      | running => exact absurd wake waits
      | idle => rw [wake] at wakes; cases wakes
      | waking w =>
        rw [wake] at wakes
        cases wakes
        exact early w wake
    refine (tracks.take parts waits coming soon before).imp_left fun onward => ⟨onward, ?_⟩
    refine .left _ _ ?_
    rw [coming, takenAll, if_pos (a.now.le_later_right first.1)]
    exact Nat.lt_succ_of_le (length_takenAll m rfl)

/-- If nothing more happens, nothing more would happen without the hidden inputs. -/
theorem Tracks.still (parts : v.Parts m) (tracks : v.Tracks m limit a q)
    (still : a.step? m limit = none) : q.step? m limit = none := by
  obtain ⟨late, later⟩ := (step?_eq_none_iff m tracks.inTime).mp still
  have waits : m.wake a.state ≠ .running := by
    intro running
    have beyond := late a.now (by rw [running]; rfl)
    exact Rat.not_le.mpr beyond tracks.inTime
  rw [step?_eq_none_iff m (Rat.le_trans tracks.now tracks.inTime), tracks.moment,
    tracks.wake_eq parts (parts.load_eq_zero waits)]
  exact ⟨late, fun input member =>
    tracks.late_of_head _ later input (tracks.mem_inputs (List.mem_of_head? member))⟩

section Run

variable {final : σ → Bool} (parts : v.Parts m) (blind : ∀ s, final (v.look s) = final s)

include parts in
/-- What does not show comes to an end, so the other simulation makes its next step in time. -/
theorem Tracks.catchUp {a : Simulation σ ι} (tracks : v.Tracks m limit a q) (final : σ → Bool) :
    ∃ n, v.Tracks m limit (a.run m limit final n) q ∧ ((a.run m limit final n).Rests m limit final ∨
      ∃ q', q.step? m limit = some q' ∧ v.Tracks m limit (a.run m limit final (n + 1)) q') := by
  by_cases finished : final a.state = true
  · exact ⟨0, tracks, .inl (.inl finished)⟩
  · cases step : a.step? m limit with
    | none => exact ⟨0, tracks, .inl (.inr step)⟩
    | some next =>
      have run := run_succ m finished step
      obtain ⟨onward, less⟩ | ⟨q', further, onward⟩ := tracks.step parts step
      · obtain ⟨n, later, done⟩ := onward.catchUp final
        exact ⟨n + 1, by rw [run]; exact later, by rw [run, run]; exact done⟩
      · exact ⟨0, tracks, .inr ⟨q', further, by rw [run]; exact onward⟩⟩
termination_by v.left a
decreasing_by exact less

include blind in
theorem Tracks.final_eq (tracks : v.Tracks m limit a q) : final q.state = final a.state := by
  rw [tracks.state]
  exact blind a.state

include parts blind

theorem Tracks.rests (tracks : v.Tracks m limit a q) (rests : a.Rests m limit final) :
    q.Rests m limit final :=
  rests.imp (tracks.final_eq blind).trans (tracks.still parts)

theorem Tracks.run (tracks : v.Tracks m limit a q) (n : Nat) :
    ∃ k, v.Tracks m limit (a.run m limit final n) (q.run m limit final k) := by
  induction n generalizing a q with
  | zero => exact ⟨0, tracks⟩
  | succ n ih =>
    rw [Simulation.run]
    split
    · exact ⟨0, tracks⟩
    · next unfinished =>
      cases step : a.step? m limit with
      | none => exact ⟨0, tracks⟩
      | some next =>
        obtain ⟨onward, -⟩ | ⟨q', further, onward⟩ := tracks.step parts step
        · exact ih onward
        · obtain ⟨k, later⟩ := ih onward
          refine ⟨k + 1, ?_⟩
          rw [run_succ m (by rwa [tracks.final_eq blind]) further]
          exact later

theorem Tracks.runBack (tracks : v.Tracks m limit a q) (k : Nat) :
    ∃ n, v.Tracks m limit (a.run m limit final n) (q.run m limit final k) := by
  induction k with
  | zero => exact ⟨0, tracks⟩
  | succ k ih =>
    obtain ⟨n, here⟩ := ih
    rw [run_add m final k 1]
    by_cases rests : (q.run m limit final k).Rests m limit final
    · exact ⟨n, by rw [run_of_rests m rests]; exact here⟩
    · obtain ⟨more, there, done | ⟨q', step, onward⟩⟩ := here.catchUp parts final
      · exact absurd (there.rests parts blind done) rests
      · refine ⟨n + (more + 1), ?_⟩
        rw [run_add, run_succ m (fun finished => rests (.inl finished)) step]
        exact onward

/-- When the other simulation rests, so does this one in the end. -/
theorem Tracks.settle (tracks : v.Tracks m limit a q) (rests : q.Rests m limit final) :
    ∃ n, v.Tracks m limit (a.run m limit final n) q ∧
      (a.run m limit final n).Rests m limit final := by
  obtain finished | still := rests
  · exact ⟨0, tracks, .inl ((tracks.final_eq blind).symm.trans finished)⟩
  · obtain ⟨n, there, done | ⟨q', step, -⟩⟩ := tracks.catchUp parts final
    · exact ⟨n, there, done⟩
    · rw [still] at step
      cases step

end Run

end Tracks

/-- In front of a veil two simulations look the same. -/
structure Alike (v : Veil σ ι) (a b : Simulation σ ι) : Prop where
  state : v.look a.state = v.look b.state
  journal : a.journal.heard v.shows = b.journal.heard v.shows

/-- Some of what shows is the same as well. -/
theorem Alike.heard {v : Veil σ ι} {a b : Simulation σ ι} (alike : v.Alike a b) {kind : Notice → Bool}
    (shown : ∀ n, kind n = true → v.shows n = true) : a.journal.heard kind = b.journal.heard kind := by
  have part (j : Journal) : j.heard kind = (j.heard v.shows).filter fun e => kind e.notice := by
    rw [Journal.heard, Journal.heard, List.filter_filter]
    congr 1
    funext e
    cases chosen : kind e.notice with
    | true => simp [shown e.notice chosen]
    | false => rfl
  rw [part, part, alike.journal]

theorem Tracks.alike {v : Veil σ ι} {m : Machine σ ι} {limit : Time} {a b q : Simulation σ ι}
    (first : v.Tracks m limit a q) (second : v.Tracks m limit b q) : v.Alike a b where
  state := first.state.symm.trans second.state
  journal := first.journal.symm.trans second.journal

section Alike

variable {v : Veil σ ι} {m : Machine σ ι} {s : σ} {now limit : Time} (final : σ → Bool)

theorem Parts.tracks_scripted (sound : v.sound s) (idle : v.load s = 0) (soon : now ≤ limit)
    (inputs : List (Time × ι)) :
    v.Tracks m limit (scripted s now inputs) (scripted (v.look s) now (v.visible inputs)) := by
  refine Agrees.tracks ⟨rfl, ?_, sorted_scripted s now inputs, rfl, sound⟩ rfl soon
    fun busy => absurd idle busy
  exact (filter_scripted s (v.look s) now _ inputs).symm

/-- Two simulations that differ in hidden inputs only are alike: each point of the first one has its
counterpart in the second, and where the first one rests so does the second. -/
theorem Parts.counterpart (parts : v.Parts m) (blind : ∀ s, final (v.look s) = final s)
    (sound : v.sound s) (idle : v.load s = 0) (soon : now ≤ limit) {inputs others : List (Time × ι)}
    (same : v.visible inputs = v.visible others) (n : Nat) :
    ∃ k, v.Alike ((scripted s now inputs).run m limit final n)
        ((scripted s now others).run m limit final k) ∧
      (((scripted s now inputs).run m limit final n).Rests m limit final →
        ((scripted s now others).run m limit final k).Rests m limit final) := by
  obtain ⟨l, first⟩ := (tracks_scripted sound idle soon inputs).run parts blind n
  have start := tracks_scripted (m := m) sound idle soon others
  rw [← same] at start
  obtain ⟨k, second⟩ := start.runBack parts blind l
  by_cases rests : ((scripted s now inputs).run m limit final n).Rests m limit final
  · obtain ⟨more, there, done⟩ := second.settle parts blind (first.rests parts blind rests)
    rw [← run_add] at there done
    exact ⟨k + more, first.alike there, fun _ => done⟩
  · exact ⟨k, first.alike second, fun done => absurd done rests⟩

/-- Two such simulations come to rest alike. -/
theorem Parts.alike_of_rests (parts : v.Parts m) (blind : ∀ s, final (v.look s) = final s)
    (sound : v.sound s) (idle : v.load s = 0) (soon : now ≤ limit) {inputs others : List (Time × ι)}
    (same : v.visible inputs = v.visible others) {n k : Nat}
    (first : ((scripted s now inputs).run m limit final n).Rests m limit final)
    (second : ((scripted s now others).run m limit final k).Rests m limit final) :
    v.Alike ((scripted s now inputs).run m limit final n)
      ((scripted s now others).run m limit final k) := by
  obtain ⟨l, alike, done⟩ := parts.counterpart final blind sound idle soon same n
  have rests := done first
  -- A run that rests stays where it is.
  rwa [← run_of_rests m rests k, ← run_add, Nat.add_comm, run_add, run_of_rests m second] at alike

end Alike

end Veil

end BurstLoad
