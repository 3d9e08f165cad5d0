import BurstLoad.Proofs.Inbox
import BurstLoad.Proofs.Inbox.Fate
import Mathlib.Algebra.BigOperators.Group.Finset.Basic
import Mathlib.Algebra.BigOperators.Group.Finset.Piecewise
import Mathlib.Data.List.Nodup

/-! Connections do not get in each other's way. Whatever comes to the connections of a listener, and in
whatever order they take their turns, what becomes of each of them follows from its own events
alone, and the receiver counts the frames of all. -/

set_option autoImplicit false

namespace BurstLoad

open BurstLoad.Frame (Reading Reader)

namespace Visitor

/-- The frames that a connection hands over in a turn. -/
def turn (faults : Bytes → Option Fault) (v : Visitor) : List Bytes :=
  match v.stage with
  | .closed => []
  | _ => (v.reader.serve faults).frames

/-- What is noted of a connection with a fate. -/
def account (receiver : Receiver) (v : Visitor) (fate : Fate) : List Notice :=
  newNotice v.peer :: receiver.noticesOf v.peer fate.frames ++ (v.conclude fate.last).2

/-- Where a connection stands, by its events, the frames that it handed over and what was noted of
it. -/
inductive Stands (limit : Int) (receiver : Receiver) (woken : Prop) (events : List Inbox.Event)
    (frames : List Bytes) (notices : List Notice) (v : Visitor) : Prop where
  | fresh : woken → v.stage = .accepted → v.reader = { limit } → v.closes = 0 → events = [] →
    frames = [] → notices = [] → Stands limit receiver woken events frames notices v
  | waiting : ¬ woken → v.stage = .reading → v.closes = 0 →
    (Stream.ofEvents events).fate limit receiver.faults = ⟨frames, .pending⟩ →
    v.reader.Awaits limit (Frame.split limit (Stream.ofEvents events).bytes).rest →
    notices = v.account receiver ⟨frames, .pending⟩ →
    Stands limit receiver woken events frames notices v
  | roused {before : List Inbox.Event} {event : Inbox.Event} {r : Reader} :
    woken → v.stage = .reading → v.closes = 0 → events = before ++ [event] →
    event.rouses = true → v.reader = event.change r →
    (Stream.ofEvents before).fate limit receiver.faults = ⟨frames, .pending⟩ →
    r.Awaits limit (Frame.split limit (Stream.ofEvents before).bytes).rest →
    notices = v.account receiver ⟨frames, .pending⟩ →
    Stands limit receiver woken events frames notices v
  | gone {last : Reading} : ¬ woken → v.stage = .closed → v.closes = 1 →
    (Stream.ofEvents events).fate limit receiver.faults = ⟨frames, last⟩ → last ≠ .pending →
    notices = v.account receiver ⟨frames, last⟩ →
    Stands limit receiver woken events frames notices v

theorem peer_conclude (v : Visitor) (last : Reading) : (v.conclude last).1.peer = v.peer := by
  cases last <;> rfl

section Turn

variable {limit : Int} {receiver : Receiver} {woken : Prop} {events : List Inbox.Event}
  {frames : List Bytes} {notices : List Notice} {v : Visitor}

/-- The end of a turn. -/
theorem stands_conclude {last : Reading} (asleep : ¬ woken) (stage : v.stage = .reading)
    (unclosed : v.closes = 0)
    (fate : (Stream.ofEvents events).fate limit receiver.faults = ⟨frames, last⟩)
    (whole : ∀ body, last ≠ .frame body)
    (awaits : last = .pending →
      v.reader.Awaits limit (Frame.split limit (Stream.ofEvents events).bytes).rest) :
    (v.conclude last).1.Stands limit receiver woken events frames
      (v.account receiver ⟨frames, last⟩) := by
  cases last with
  | pending => exact .waiting asleep stage unclosed fate (awaits rfl) rfl
  | finished | failed =>
    have once : v.closes + 1 = 1 := by rw [unclosed]
    exact .gone asleep rfl once fate nofun rfl
  | frame body => exact (whole body rfl).elim

theorem account_begun (receiver : Receiver) (v : Visitor) :
    v.account receiver ⟨[], .pending⟩ = [newNotice v.peer] := by
  simp [account, conclude]

theorem account_append (receiver : Receiver) (v : Visitor) (first rest : List Bytes)
    (last : Reading) :
    v.account receiver ⟨first ++ rest, last⟩ =
      v.account receiver ⟨first, .pending⟩ ++
        (receiver.noticesOf v.peer rest ++ (v.conclude last).2) := by
  simp [account, conclude, receiver.noticesOf_append]

/-- A turn of a connection that reads: it goes on from the frames that it began with to what becomes
of its events. -/
theorem stands_drain (begun : List Bytes) (asleep : ¬ woken) (stage : v.stage = .reading)
    (unclosed : v.closes = 0)
    (fate : (Stream.ofEvents events).fate limit receiver.faults =
      ⟨begun ++ (v.reader.serve receiver.faults).frames, (v.reader.serve receiver.faults).last⟩)
    (awaits : (v.reader.serve receiver.faults).last = .pending →
      (v.reader.serve receiver.faults).reader.Awaits limit
        (Frame.split limit (Stream.ofEvents events).bytes).rest)
    (done : List Bytes) :
    ∃ next more, drain (receiver.takeAll done) v =
        (receiver.takeAll (done ++ (v.reader.serve receiver.faults).frames), next, more) ∧
      next.peer = v.peer ∧
      next.Stands limit receiver woken events (begun ++ (v.reader.serve receiver.faults).frames)
        (v.account receiver ⟨begun, .pending⟩ ++ more) := by
  have ended := stands_conclude (v := { v with reader := (v.reader.serve receiver.faults).reader })
    asleep stage unclosed fate (v.reader.serve_last_ne_frame) awaits
  rw [account_append] at ended
  refine ⟨_, _, ?_, ?_, ended⟩
  · rw [drain_eq, receiver.takeAll_append]
    rfl
  · rw [peer_conclude]

/-- The turn of a connection that was woken. -/
theorem Stands.proceed (stands : v.Stands limit receiver woken events frames notices)
    (awake : woken) {later : Prop} (asleep : ¬ later) (done : List Bytes) :
    ∃ next more, v.proceed (receiver.takeAll done) =
        (receiver.takeAll (done ++ v.turn receiver.faults), next, more) ∧
      next.Stands limit receiver later events (frames ++ v.turn receiver.faults)
        (notices ++ more) := by
  cases stands with
  | fresh _ stage reader unclosed events frames notices =>
    subst events frames notices
    have handed := Reader.serve_before receiver.faults limit [] false
    rw [show Reader.before limit [] false = v.reader from reader.symm] at handed
    obtain ⟨handed, last, awaits⟩ := handed
    have begun : (Stream.ofEvents []).fate limit receiver.faults =
        ⟨[] ++ (v.reader.serve receiver.faults).frames, (v.reader.serve receiver.faults).last⟩ := by
      rw [handed, last]
      rfl
    obtain ⟨next, more, drained, peer, stands⟩ := stands_drain (v := { v with stage := .reading }) []
      asleep rfl unclosed begun
      (fun waits => awaits (last ▸ waits)) done
    rw [account_begun] at stands
    refine ⟨next, newNotice v.peer :: more, ?_, ?_⟩
    · simp only [Visitor.proceed, stage, enter, drained, turn, peer]
    · simp only [turn, stage]
      exact stands
  | waiting asleep => exact absurd awake asleep
  | @roused before event r _ stage unclosed arrived rouses reader fate awaits noted =>
    have waits : ((Stream.ofEvents before).fate limit receiver.faults).last = .pending := by
      rw [fate]
    obtain ⟨handed, last, further⟩ := awaits.serve_change rouses receiver.faults
    rw [← reader] at handed last further
    have stream : Stream.ofEvents events = (Stream.ofEvents before).extend event := by
      rw [arrived, Stream.ofEvents_concat]
    have onward := Stream.fate_extend waits event
    rw [← stream, fate] at onward
    dsimp only at onward
    rw [← handed, ← last] at onward
    have left : (Frame.split limit (Stream.ofEvents events).bytes).rest =
        (Frame.split limit
          ((Frame.split limit (Stream.ofEvents before).bytes).rest ++ event.bytes)).rest := by
      rw [stream, Stream.extend_of_pending waits, Frame.split_append]
    rw [← left, ← last] at further
    obtain ⟨next, more, drained, -, stands⟩ :=
      stands_drain frames asleep stage unclosed onward further done
    refine ⟨next, more, ?_, ?_⟩
    · simp only [Visitor.proceed, stage, drained, turn]
    · simp only [turn, stage, noted]
      exact stands
  | gone asleep => exact absurd awake asleep

/-- An event on a connection that has had its turn and is not closed: it waits, and is woken unless the
event is nothing at all. -/
theorem Stands.change (stands : v.Stands limit receiver woken events frames notices)
    (asleep : ¬ woken) (reached : v.stage ≠ .closed) (event : Inbox.Event) :
    v.reader.waits = true ∧
      { v with reader := event.change v.reader }.Stands limit receiver (event.rouses = true)
        (events ++ [event]) frames notices := by
  cases stands with
  | fresh awake => exact absurd awake asleep
  | roused awake => exact absurd awake asleep
  | gone _ stage => exact absurd stage reached
  | waiting _ stage unclosed fate awaits noted =>
    refine ⟨awaits.waits, ?_⟩
    cases rouses : event.rouses with
    | true => exact .roused rfl stage unclosed rfl rouses rfl fate awaits noted
    | false =>
      obtain ⟨chunk, rfl⟩ : ∃ chunk, event = .feed chunk := by
        cases event with
        | feed chunk => exact ⟨chunk, rfl⟩
        | close | reset => cases rouses
      obtain rfl : chunk = [] := by simpa [Inbox.Event.rouses] using rouses
      have same : Stream.ofEvents (events ++ [.feed []]) = Stream.ofEvents events := by
        rw [Stream.ofEvents_concat, Stream.extend_of_pending (congrArg Fate.last fate)]
        have ongoing := Stream.tail_eq_of_pending (congrArg Fate.last fate)
        simp [Inbox.Event.bytes, Inbox.Event.tail, ← ongoing]
      exact .waiting (by simp) stage unclosed (same ▸ fate) (same ▸ awaits) noted

/-- An event on a connection that is closed. -/
theorem Stands.ignore (stands : v.Stands limit receiver woken events frames notices)
    (closed : v.stage = .closed) (event : Inbox.Event) :
    v.Stands limit receiver woken (events ++ [event]) frames notices := by
  cases stands with
  | fresh _ stage => simp [closed] at stage
  | waiting _ stage => simp [closed] at stage
  | roused _ stage => simp [closed] at stage
  | gone asleep stage once fate ended noted =>
    refine .gone asleep stage once ?_ ended noted
    rw [Stream.ofEvents_concat, Stream.fate_extend_of_over (by rw [fate]; exact ended), fate]

end Turn

end Visitor

namespace Inbox

/-- What happens on a listener: an event comes to the connection at a place, or that connection has a
turn, in which it hands over frames and something is noted. -/
inductive Happening where
  | arrived (place : Nat) (event : Event)
  | served (place : Nat) (frames : List Bytes) (notices : List Notice)

namespace Happening

def place : Happening → Nat
  | arrived place _ => place
  | served place _ _ => place

def events : Happening → List Event
  | arrived _ event => [event]
  | served _ _ _ => []

def frames : Happening → List Bytes
  | arrived _ _ => []
  | served _ frames _ => frames

def notices : Happening → List Notice
  | arrived _ _ => []
  | served _ _ notices => notices

end Happening

def eventsOf (h : List Happening) : List Event :=
  h.flatMap Happening.events

def framesOf (h : List Happening) : List Bytes :=
  h.flatMap Happening.frames

def noticesOf (h : List Happening) : List Notice :=
  h.flatMap Happening.notices

/-- What happened to the connection at a place. -/
def happenedAt (place : Nat) (h : List Happening) : List Happening :=
  h.filter fun x => x.place == place

/-- The place of the last connection under a name. -/
def place? (i : Inbox) (name : String) : Option Nat :=
  (i.visitors.zipIdx.reverse.find? fun p => p.1.name == name).map Prod.snd

/-- What a listener comes to while connections come, events come to them and those that are woken take
their turns, with all that happens on the way. The next event comes to a connection when it has had
its turn. -/
inductive Serves (i : Inbox) : List Happening → Inbox → Prop where
  | start : Serves i [] i
  | accept {h : List Happening} {j : Inbox} (name : String) (peer : Peer)
    (closeFault : Option Fault) : Serves i h j → Serves i h (j.accept name peer closeFault)
  | deliver {h : List Happening} {j : Inbox} (name : String) (place : Nat) (event : Event) :
    Serves i h j → j.place? name = some place → place ∉ j.woken →
    Serves i (h ++ [.arrived place event]) (j.deliver name event)
  | proceed {h : List Happening} {j : Inbox} {v : Visitor} (place : Nat) (woken : List Nat) :
    Serves i h j → j.woken = place :: woken → j.visitors[place]? = some v →
    Serves i (h ++ [.served place (v.turn j.receiver.faults) j.proceed.2]) j.proceed.1

theorem happenedAt_concat_same (h : List Happening) (x : Happening) :
    happenedAt x.place (h ++ [x]) = happenedAt x.place h ++ [x] := by
  simp [happenedAt]

theorem happenedAt_concat_other {place : Nat} (h : List Happening) {x : Happening}
    (other : x.place ≠ place) : happenedAt place (h ++ [x]) = happenedAt place h := by
  simp [happenedAt, other]

theorem happenedAt_eq_nil {place : Nat} {h : List Happening} (within : ∀ x ∈ h, x.place < place) :
    happenedAt place h = [] := by
  simp only [happenedAt, List.filter_eq_nil_iff, beq_iff_eq]
  intro x member same
  exact absurd (within x member) (by omega)

theorem visitor_of_place? {i : Inbox} {name : String} {place : Nat}
    (named : i.place? name = some place) :
    ∃ v, i.visitors[place]? = some v ∧
      i.reached? name = if v.stage = .closed then none else some (place, v) := by
  obtain ⟨⟨v, other⟩, found, rfl⟩ := Option.map_eq_some_iff.mp named
  refine ⟨v, visitor_of_found found, ?_⟩
  rw [reached?, found]

/-- What is kept on the way of a listener. -/
structure Keeps (i : Inbox) (h : List Happening) (j : Inbox) : Prop where
  bound : j.bound = i.bound
  limit : j.limit = i.limit
  receiver : j.receiver = i.receiver.takeAll (framesOf h)
  nodup : j.woken.Nodup
  within : ∀ x ∈ h, x.place < j.visitors.length
  awake : ∀ place ∈ j.woken, place < j.visitors.length
  stands : ∀ (place : Nat) (v : Visitor), j.visitors[place]? = some v →
    v.Stands i.limit i.receiver (place ∈ j.woken) (eventsOf (happenedAt place h))
      (framesOf (happenedAt place h)) (noticesOf (happenedAt place h))

section Keeps

variable {i j : Inbox} {h : List Happening}

theorem Keeps.accept (keeps : Keeps i h j) (running : i.running = true) (name : String) (peer : Peer)
    (closeFault : Option Fault) : Keeps i h (j.accept name peer closeFault) := by
  have here : j.running = true := by
    rw [Inbox.running, keeps.bound]
    exact running
  have later {n : Nat} (low : n < j.visitors.length) : n < (j.visitors.length + 1) := by omega
  unfold Inbox.accept
  rw [if_pos here]
  refine ⟨keeps.bound, keeps.limit, keeps.receiver, ?_, ?_, ?_, ?_⟩
  · refine List.nodup_append_comm.mpr (List.nodup_cons.mpr ⟨fun member => ?_, keeps.nodup⟩)
    exact Nat.lt_irrefl _ (keeps.awake _ member)
  · intro x member
    simpa using later (keeps.within x member)
  · intro place member
    obtain member | last := List.mem_append.mp member
    · simpa using later (keeps.awake place member)
    · obtain rfl := List.mem_singleton.mp last
      simp
  · intro place v here
    dsimp only at here ⊢
    by_cases low : place < j.visitors.length
    · rw [List.getElem?_append_left low] at here
      have same : (place ∈ j.woken ++ [j.visitors.length]) = (place ∈ j.woken) := by
        simp [Nat.ne_of_lt low]
      rw [same]
      exact keeps.stands place v here
    · obtain rfl : place = j.visitors.length := by
        have := (List.getElem?_eq_some_iff.mp here).1
        simp at this
        omega
      rw [happenedAt_eq_nil keeps.within]
      rw [List.getElem?_append_right (Nat.le_refl _), Nat.sub_self] at here
      cases here
      exact .fresh (by simp) rfl (by rw [keeps.limit]) rfl rfl rfl rfl

/-- What happens to one connection leaves the others as they are. -/
theorem Keeps.step (keeps : Keeps i h j) {x : Happening} {next : Inbox} {v : Visitor}
    (bound : next.bound = j.bound) (limit : next.limit = j.limit)
    (receiver : next.receiver = j.receiver.takeAll x.frames)
    (low : x.place < j.visitors.length) (visitors : next.visitors = j.visitors.set x.place v)
    (nodup : next.woken.Nodup)
    (woken : ∀ place, place ≠ x.place → (place ∈ next.woken ↔ place ∈ j.woken))
    (stands : v.Stands i.limit i.receiver (x.place ∈ next.woken)
      (eventsOf (happenedAt x.place h) ++ x.events) (framesOf (happenedAt x.place h) ++ x.frames)
      (noticesOf (happenedAt x.place h) ++ x.notices)) : Keeps i (h ++ [x]) next where
  bound := bound.trans keeps.bound
  limit := limit.trans keeps.limit
  receiver := by
    rw [receiver, keeps.receiver, ← Receiver.takeAll_append]
    simp [framesOf]
  nodup := nodup
  within := by
    rw [visitors, List.length_set]
    intro y member
    obtain member | last := List.mem_append.mp member
    · exact keeps.within y member
    · obtain rfl := List.mem_singleton.mp last
      exact low
  awake := by
    rw [visitors, List.length_set]
    intro place member
    by_cases own : place = x.place
    · exact own ▸ low
    · exact keeps.awake place ((woken place own).mp member)
  stands := by
    intro place w here
    rw [visitors] at here
    by_cases own : place = x.place
    · subst own
      rw [List.getElem?_set_self low] at here
      cases here
      rw [happenedAt_concat_same]
      simpa [eventsOf, framesOf, noticesOf] using stands
    · rw [List.getElem?_set_ne (Ne.symm own)] at here
      rw [happenedAt_concat_other h (Ne.symm own), propext (woken place own)]
      exact keeps.stands place w here

theorem Keeps.deliver (keeps : Keeps i h j) {place : Nat} {name : String}
    (named : j.place? name = some place) (asleep : place ∉ j.woken) (event : Event) :
    Keeps i (h ++ [.arrived place event]) (j.deliver name event) := by
  obtain ⟨v, here, reached⟩ := visitor_of_place? named
  obtain ⟨low, same⟩ := List.getElem?_eq_some_iff.mp here
  have stands := keeps.stands place v here
  unfold Inbox.deliver
  rw [reached]
  by_cases closed : v.stage = .closed
  · rw [if_pos closed]
    refine keeps.step (v := v) rfl rfl rfl low ?_ keeps.nodup (fun _ _ => Iff.rfl) ?_
    · rw [← same]
      exact (List.set_getElem_self low).symm
    · simpa [Happening.place, Happening.events, Happening.frames, Happening.notices] using
        stands.ignore closed event
  · rw [if_neg closed]
    obtain ⟨waits, changed⟩ := stands.change asleep closed event
    dsimp only
    rw [waits, Bool.true_and]
    refine keeps.step (v := { v with reader := event.change v.reader }) rfl rfl rfl low rfl ?_ ?_ ?_
    · dsimp only
      split
      · exact List.nodup_append_comm.mpr (List.nodup_cons.mpr ⟨asleep, keeps.nodup⟩)
      · exact keeps.nodup
    · intro other apart
      dsimp only [Happening.place] at apart ⊢
      split <;> simp [apart]
    · have woken : (place ∈ if event.rouses = true then j.woken ++ [place] else j.woken) =
          (event.rouses = true) := by
        split <;> simp_all
      dsimp only [Happening.place, Happening.events, Happening.frames, Happening.notices]
      rw [woken, List.append_nil, List.append_nil]
      exact changed

theorem Keeps.proceed (keeps : Keeps i h j) {place : Nat} {woken : List Nat} {v : Visitor}
    (first : j.woken = place :: woken) (here : j.visitors[place]? = some v) :
    Keeps i (h ++ [.served place (v.turn j.receiver.faults) j.proceed.2]) j.proceed.1 := by
  have nodup := keeps.nodup
  rw [first, List.nodup_cons] at nodup
  have awake : place ∈ j.woken := by simp [first]
  obtain ⟨next, more, turned, stands⟩ :=
    (keeps.stands place v here).proceed awake nodup.1 (framesOf h)
  have faults : j.receiver.faults = i.receiver.faults := by
    rw [keeps.receiver]
    rfl
  rw [← keeps.receiver] at turned
  have step : j.proceed = ({ j with
      receiver := j.receiver.takeAll (v.turn j.receiver.faults)
      visitors := j.visitors.set place next
      woken }, more) := by
    unfold Inbox.proceed
    rw [first]
    dsimp only
    rw [here]
    dsimp only
    rw [turned, faults, keeps.receiver, Receiver.takeAll_append]
  rw [step, faults]
  refine keeps.step (v := next) rfl rfl rfl ?_ rfl nodup.2 ?_ ?_
  · exact keeps.awake place awake
  · intro other apart
    dsimp only [Happening.place] at apart ⊢
    simp [first, apart]
  · dsimp only [Happening.place, Happening.events, Happening.frames, Happening.notices]
    rw [List.append_nil]
    exact stands

theorem keeps_of_serves (none : i.visitors = []) (idle : i.woken = []) (running : i.running = true)
    (serves : i.Serves h j) : Keeps i h j := by
  induction serves with
  | start => exact ⟨rfl, rfl, rfl, by simp [idle], by simp, by simp [idle], by simp [none]⟩
  | accept name peer closeFault _ ih => exact ih.accept running name peer closeFault
  | deliver name place event _ named asleep ih => exact ih.deliver named asleep event
  | proceed place woken _ first here ih => exact ih.proceed first here

end Keeps

/-- What is so of every listener that serves, whatever came to it and in whatever order. -/
structure IsIsolated (i : Inbox) (h : List Happening) (j : Inbox) : Prop where
  serving : j.running = true
  fates : ∀ (place : Nat) (v : Visitor), j.visitors[place]? = some v → place ∉ j.woken →
    ∃ fate : Fate, fate =
        (Stream.ofEvents (eventsOf (happenedAt place h))).fate i.limit i.receiver.faults ∧
      framesOf (happenedAt place h) = fate.frames ∧
      noticesOf (happenedAt place h) = v.account i.receiver fate ∧
      (fate.last = .pending → v.stage = .reading ∧ v.closes = 0) ∧
      (fate.last ≠ .pending → v.stage = .closed ∧ v.closes = 1)
  handed : ∀ (place : Nat) (v : Visitor), j.visitors[place]? = some v →
    framesOf (happenedAt place h) <+:
      ((Stream.ofEvents (eventsOf (happenedAt place h))).fate i.limit i.receiver.faults).frames
  frames : j.receiver.frames = i.receiver.frames +
    ∑ place ∈ Finset.range j.visitors.length, (framesOf (happenedAt place h)).length
  bytes : j.receiver.bytes = i.receiver.bytes +
    ∑ place ∈ Finset.range j.visitors.length, (framesOf (happenedAt place h)).flatten.length

/-- What all connections handed over is what each of them did. -/
theorem sum_framesOf (weight : List Bytes → Nat) (none : weight [] = 0)
    (append : ∀ first rest, weight (first ++ rest) = weight first + weight rest)
    {h : List Happening} {n : Nat} (within : ∀ x ∈ h, x.place < n) :
    weight (framesOf h) = ∑ place ∈ Finset.range n, weight (framesOf (happenedAt place h)) := by
  induction h with
  | nil => simp [framesOf, happenedAt, none]
  | cons x rest ih =>
    have own (place : Nat) : weight (framesOf (happenedAt place (x :: rest))) =
        (if x.place = place then weight x.frames else 0) +
          weight (framesOf (happenedAt place rest)) := by
      by_cases same : x.place = place
      · simp [happenedAt, framesOf, same, append]
      · simp [happenedAt, framesOf, same]
    have low := within x (by simp)
    simp only [own, Finset.sum_add_distrib, Finset.sum_ite_eq, Finset.mem_range, low, if_true]
    rw [← ih fun y member => within y (List.mem_cons_of_mem x member)]
    simp [framesOf, append]

/-- Connections are isolated from each other: each hands over the whole frames of its own stream and
ends as that stream says, the listener serves on, and the receiver has counted what all of them
handed over. -/
theorem isIsolated_of_serves {i j : Inbox} {h : List Happening} (none : i.visitors = [])
    (idle : i.woken = []) (running : i.running = true) (serves : i.Serves h j) :
    IsIsolated i h j := by
  have keeps := keeps_of_serves none idle running serves
  refine ⟨?_, ?_, ?_, ?_, ?_⟩
  · rw [Inbox.running, keeps.bound]
    exact running
  · intro place v here asleep
    refine ⟨_, rfl, ?_⟩
    cases keeps.stands place v here with
    | fresh awake => exact absurd awake asleep
    | roused awake => exact absurd awake asleep
    | waiting _ stage unclosed fate _ noted =>
      rw [fate]
      exact ⟨rfl, noted, fun _ => ⟨stage, unclosed⟩, fun gone => absurd rfl gone⟩
    | gone _ stage once fate ended noted =>
      rw [fate]
      exact ⟨rfl, noted, fun waits => absurd waits ended, fun _ => ⟨stage, once⟩⟩
  · intro place v here
    cases keeps.stands place v here with
    | fresh _ _ _ _ _ handed =>
      rw [handed]
      exact List.nil_prefix
    | waiting _ _ _ fate => rw [fate]
    | gone _ _ _ fate => rw [fate]
    | roused _ _ _ arrived _ _ fate =>
      rw [arrived, Stream.ofEvents_concat, Stream.fate_extend (congrArg Fate.last fate), fate]
      exact List.prefix_append _ _
  · rw [keeps.receiver, ← sum_framesOf List.length rfl (by simp) keeps.within]
    rfl
  · rw [keeps.receiver,
      ← sum_framesOf (fun frames => frames.flatten.length) rfl (by simp) keeps.within]
    rfl

/-- A listener that takes frames of eight bytes at most. -/
def narrow : Inbox where
  host := "0.0.0.0"
  port := 9001
  limit := 8
  receiver := { verbose := false }
  bound := some 9001

/-- Between the two parts of a frame another connection announces one that is too large. -/
theorem isIsolated_narrow : ∃ h j,
    narrow.Serves h j ∧ framesOf (happenedAt 0 h) = [[7]] ∧ framesOf (happenedAt 1 h) = [] ∧
      j.visitors.map Visitor.stage = [.reading, .closed] ∧ j.receiver.frames = 1 ∧
      IsIsolated narrow h j := by
  have accepted := ((Serves.start (i := narrow)).accept "a" none none).accept "b" none none
  have begun := accepted.proceed 0 [1] (by decide +kernel)
    (List.getElem?_eq_getElem (by decide +kernel))
  have reading := begun.proceed 1 [] (by decide +kernel)
    (List.getElem?_eq_getElem (by decide +kernel))
  have announced := reading.deliver "a" 0 (.feed [0, 0, 0, 1]) (by decide +kernel)
    (by decide +kernel)
  have oversized := announced.deliver "b" 1 (.feed [255, 255, 255, 255])
    (by decide +kernel) (by decide +kernel)
  have waiting := oversized.proceed 0 [1] (by decide +kernel)
    (List.getElem?_eq_getElem (by decide +kernel))
  have closed := waiting.proceed 1 [] (by decide +kernel)
    (List.getElem?_eq_getElem (by decide +kernel))
  have completed := closed.deliver "a" 0 (.feed [7]) (by decide +kernel)
    (by decide +kernel)
  have served := completed.proceed 0 [] (by decide +kernel)
    (List.getElem?_eq_getElem (by decide +kernel))
  exact ⟨_, _, served, by decide +kernel, by decide +kernel, by decide +kernel, by decide +kernel,
    isIsolated_of_serves rfl rfl rfl served⟩

end Inbox

end BurstLoad
