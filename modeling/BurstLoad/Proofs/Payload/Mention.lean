import BurstLoad.Proofs.Payload.Repetition
import Mathlib

/-! What the log says of a sample, in the line of its sender and in the line of its receiver. Both name
the run as their client. As the count the sender gives the bursts that it counted, and the receiver what
the tag has kept of them: this is one count exactly if it is at least zero and below `2^24`. -/

set_option autoImplicit false

namespace BurstLoad

/-- What a line says of a sample. -/
structure Mention where
  number : Int
  client : Int
  count : Int
  deriving DecidableEq

namespace Notice

/-- Numbers end at a comma or a bracket. -/
def isInside (c : Char) : Bool :=
  c != ',' && c != ')'

/-- The number that a text gives behind some words, and what comes after it. -/
def takeNumber? (words : String) (text : List Char) : Option (Int × List Char) := do
  let rest ← text.dropPrefix? words.toList
  let number ← (String.ofList (rest.takeWhile isInside)).toInt?
  pure (number, rest.dropWhile isInside)

/-- What a line says of a sample, if it begins with some words. -/
def mention? (words : String) (n : Notice) : Option Mention := do
  let (number, rest) ← takeNumber? words n.text.toList
  let (client, rest) ← takeNumber? ", (client " rest
  let (count, _) ← takeNumber? ", count " rest
  pure ⟨number, client, count⟩

/-- What the sender says of a sample. -/
def announcement? (n : Notice) : Option Mention :=
  if n.level = .info ∧ n.part = .generator then n.mention? "Sending sample transaction " else none

/-- What a receiver says of a sample. -/
def report? (n : Notice) : Option Mention :=
  if n.level = .info ∧ n.part = .listener then n.mention? "Received sample transaction " else none

theorem isInside_of_mem_repr (k : Int) : ∀ c ∈ k.repr.toList, isInside c = true := by
  have digits (n : Nat) (c : Char) (member : c ∈ n.repr.toList) : isInside c = true := by
    rw [Nat.toList_repr] at member
    have digit := Text.isDigit_toDigits n c member
    rw [isInside, Bool.and_eq_true, bne_iff_ne, bne_iff_ne]
    constructor <;> rintro rfl <;> exact absurd digit (by decide)
  intro c member
  rw [Int.repr_eq_if] at member
  split at member
  · exact digits _ c member
  · rw [String.toList_append, List.mem_append] at member
    obtain sign | member := member
    · rw [show c = '-' by simpa using sign]
      decide
    · exact digits _ c member

theorem takeNumber?_eq (words : String) (k : Int) {rest : List Char}
    (ends : ∀ c ∈ rest.head?, isInside c = false) :
    takeNumber? words (words.toList ++ (k.repr.toList ++ rest)) = some (k, rest) := by
  have inside := isInside_of_mem_repr k
  have stops : rest.takeWhile isInside = [] ∧ rest.dropWhile isInside = rest := by
    cases rest with
    | nil => exact ⟨rfl, rfl⟩
    | cons c rest => simp [ends c rfl]
  have number : (k.repr.toList ++ rest).takeWhile isInside = k.repr.toList := by
    rw [List.takeWhile_append_of_pos inside, stops.1, List.append_nil]
  have behind : (k.repr.toList ++ rest).dropWhile isInside = rest := by
    rw [List.dropWhile_append_of_pos inside, stops.2]
  rw [takeNumber?, List.dropPrefix?_append_of_beq _ (by simp)]
  simp [number, behind]

theorem mention?_eq {words : String} {n : Notice} {number client count : Int} (rest : String)
    (ends : ∀ c ∈ rest.toList.head?, isInside c = false)
    (text : n.text = words ++ number.repr ++ ", (client " ++ client.repr ++ ", count " ++
      count.repr ++ rest) :
    n.mention? words = some ⟨number, client, count⟩ := by
  have letters : n.text.toList = words.toList ++ (number.repr.toList ++ (", (client ".toList ++
      (client.repr.toList ++ (", count ".toList ++ (count.repr.toList ++ rest.toList))))) := by
    rw [text]
    simp only [String.toList_append, List.append_assoc]
  have commas : isInside ',' = false := by decide
  rw [mention?, letters, takeNumber?_eq words number (by simp [commas])]
  dsimp only [Option.bind_eq_bind, Option.bind_some]
  rw [takeNumber?_eq ", (client " client (by simp [commas])]
  dsimp only [Option.bind_some]
  rw [takeNumber?_eq ", count " count ends]
  rfl

end Notice

namespace Payload

variable {c : Counters}

theorem announcement?_sampleNotice (c : Counters) : (sampleNotice c).announcement? =
    some ⟨sampleId (sampleTag c.burst) c.runId, c.runId, c.burst⟩ := by
  rw [Notice.announcement?, if_pos ⟨rfl, rfl⟩]
  exact Notice.mention?_eq ")" (by simp [Notice.isInside]) rfl

/-- What a receiver says of a sample is what it finds in the header. -/
theorem report?_noticeOf (tag runId : Int) (size : Nat) (peer : Peer) (other : word tag ≠ fillerTag) :
    (Receiver.noticeOf (build tag runId size) peer).report? =
      some ⟨sampleId (word tag) (word runId), word runId, word tag⟩ := by
  unfold Receiver.noticeOf
  simp only [header?_build, if_neg other]
  rw [Notice.report?, if_pos ⟨rfl, rfl⟩]
  have natural (n : Nat) : toString n = (n : Int).repr := rfl
  refine Notice.mention?_eq (", " ++ toString (build tag runId size).length ++ " B)")
    (by simp [Notice.isInside]) ?_
  rw [natural (word tag), natural (word runId)]
  simp only [String.append_assoc, Int.toString_eq_repr]

theorem word_sampleTag_cast (burst : Int) : (word (sampleTag burst) : Int) = sampleTag burst := by
  rw [word_sampleTag]
  exact Int.toNat_of_nonneg (sampleTag_bounds burst).1

theorem word_runId_cast (started : c.IsStarted) : (word c.runId : Int) = c.runId := by
  rw [word_eq_toNat started.1 started.2]
  exact Int.toNat_of_nonneg started.1

namespace Generator

/-- The sender announces a sample in one line, and a verbose receiver reports it in one line. -/
def IsLogged (sample : Emission) (sent received : Mention) : Prop :=
  (∃ line, sample.notices = [line] ∧ line.announcement? = some sent) ∧
    ∀ (r : Receiver) (peer : Peer), r.verbose = true →
      ∃ line, (r.dispatch sample.payload peer).2.1 = [line] ∧ line.report? = some received

theorem IsLogged.unique {sample : Emission} {sent sent' received received' : Mention}
    (logged : IsLogged sample sent received) (logged' : IsLogged sample sent' received') :
    sent = sent' ∧ received = received' := by
  obtain ⟨⟨line, written, announced⟩, reports⟩ := logged
  obtain ⟨⟨line', written', announced'⟩, reports'⟩ := logged'
  obtain ⟨echo, heard, reported⟩ := reports { verbose := true } none rfl
  obtain ⟨echo', heard', reported'⟩ := reports' { verbose := true } none rfl
  rw [written, List.singleton_inj] at written'
  rw [heard, List.singleton_inj] at heard'
  subst written' heard'
  rw [announced, Option.some.injEq] at announced'
  rw [reported, Option.some.injEq] at reported'
  exact ⟨announced', reported'⟩

variable {g : Generator} {calls : List Call}

/-- What the sender of a sample says when so many bursts have ended. -/
def sentMention (g : Generator) (ended : Nat) : Mention :=
  let burst := g.counters.burst + ended
  ⟨sampleId (sampleTag burst) g.counters.runId, g.counters.runId, burst⟩

/-- What its receiver says, who has the count from the tag. -/
def receivedMention (g : Generator) (ended : Nat) : Mention :=
  { g.sentMention ended with count := sampleTag (g.counters.burst + ended) }

theorem isLogged_made (honest : g.honest = true) (started : g.counters.IsStarted)
    {place ended : Nat} {m : Counters × Emission} (known : (burstsBefore 0 calls)[place]? = some ended)
    (there : (g.made calls)[place]? = some m) :
    IsLogged m.2 (g.sentMention ended) (g.receivedMention ended) := by
  obtain ⟨bursts, u, known', advanced, rfl⟩ := (Advanced.refl g).exists_made there
  rw [known, Option.some.injEq] at known'
  subst known'
  have runId := advanced.runId
  have burst := advanced.burst
  rw [next_of_honest (advanced.honest.trans honest)]
  constructor
  · refine ⟨_, rfl, ?_⟩
    rw [announcement?_sampleNotice, runId, burst]
    rfl
  · intro r peer verbose
    let payload := build (sampleTag u.counters.burst) u.counters.runId u.size
    refine ⟨Receiver.noticeOf payload peer, ?_, ?_⟩
    · rw [Receiver.dispatch, if_pos verbose]
    · rw [report?_noticeOf _ _ _ _ (word_sampleTag_ne _), word_sampleTag_cast, runId, burst,
        word_runId_cast started]
      rfl

/-- Both lines of each sample give one client and one count. -/
def AgreesOnCounts (g : Generator) (calls : List Call) : Prop :=
  ∀ m ∈ g.made calls, ∃ sent received, IsLogged m.2 sent received ∧
    received.client = sent.client ∧ received.count = sent.count

theorem count_receivedMention_eq_iff (g : Generator) (ended : Nat) :
    (g.receivedMention ended).count = (g.sentMention ended).count ↔
      0 ≤ g.counters.burst + ended ∧ g.counters.burst + ended < 2 ^ 24 := by
  change (g.counters.burst + ended) % sampleTagCount = g.counters.burst + ended ↔ _
  unfold sampleTagCount
  omega

theorem agreesOnCounts_iff (honest : g.honest = true) (started : g.counters.IsStarted) :
    g.AgreesOnCounts calls ↔ ∀ ended ∈ burstsBefore 0 calls,
      0 ≤ g.counters.burst + ended ∧ g.counters.burst + ended < 2 ^ 24 := by
  have lengths : (burstsBefore 0 calls).length = (g.made calls).length := by
    rw [length_burstsBefore, length_made]
  constructor
  · intro agrees ended member
    obtain ⟨place, known⟩ := List.mem_iff_getElem?.mp member
    obtain ⟨short, -⟩ := List.getElem?_eq_some_iff.mp known
    rw [lengths] at short
    have there := List.getElem?_eq_getElem short
    obtain ⟨sent, received, logged, -, same⟩ := agrees _ (List.mem_of_getElem? there)
    obtain ⟨rfl, rfl⟩ := logged.unique (isLogged_made honest started known there)
    exact (g.count_receivedMention_eq_iff ended).mp same
  · intro below m member
    obtain ⟨place, there⟩ := List.mem_iff_getElem?.mp member
    obtain ⟨short, -⟩ := List.getElem?_eq_some_iff.mp there
    rw [← lengths] at short
    have known := List.getElem?_eq_getElem short
    refine ⟨_, _, isLogged_made honest started known there, rfl, ?_⟩
    exact (g.count_receivedMention_eq_iff _).mpr (below _ (List.mem_of_getElem? known))

/-- What the log says of the samples of a row of calls. -/
structure IsMentioned (g : Generator) (calls : List Call) : Prop where
  count : (g.made calls).length = asked calls ∧ (burstsBefore 0 calls).length = asked calls
  /-- The client is the same on both sides, and the count of the receiver is that of the sender modulo
  `2^24`. -/
  lines : ∀ (place ended : Nat) (m : Counters × Emission),
    (burstsBefore 0 calls)[place]? = some ended → (g.made calls)[place]? = some m →
      ∃ sent received, IsLogged m.2 sent received ∧
        sent.client = g.counters.runId ∧ received.client = sent.client ∧
        sent.count = g.counters.burst + ended ∧ received.count = sent.count % 2 ^ 24
  agrees_iff : g.AgreesOnCounts calls ↔ ∀ ended ∈ burstsBefore 0 calls,
    0 ≤ g.counters.burst + ended ∧ g.counters.burst + ended < 2 ^ 24

theorem isMentioned_of_honest (honest : g.honest = true) (started : g.counters.IsStarted)
    (calls : List Call) : g.IsMentioned calls where
  count := ⟨length_made g calls, length_burstsBefore 0 calls⟩
  lines _ ended _ known there :=
    ⟨g.sentMention ended, g.receivedMention ended, isLogged_made honest started known there, rfl, rfl,
      rfl, rfl⟩
  agrees_iff := agreesOnCounts_iff honest started

/-- Samples of which the first is of the last burst with a count of its own. -/
def overflowing : Generator :=
  ⟨true, 12, ⟨7, 0, 16777215⟩, by decide⟩

theorem isMentioned_overflowing :
    overflowing.honest = true ∧ overflowing.counters.IsStarted ∧
      overflowing.IsMentioned [.next, .advanceBurst, .next] ∧
      overflowing.AgreesOnCounts [.next] := by
  have started : overflowing.counters.IsStarted := by decide
  refine ⟨rfl, started, isMentioned_of_honest rfl started _, ?_⟩
  exact (isMentioned_of_honest rfl started [.next]).agrees_iff.mpr (by decide)

/-- The sample of the next burst is sent with the count `2^24` and received with the count zero. -/
theorem not_agreesOnCounts_overflowing :
    ¬ overflowing.AgreesOnCounts [.next, .advanceBurst, .next] := by
  rw [agreesOnCounts_iff rfl (by decide)]
  decide

end Generator

end Payload

end BurstLoad
