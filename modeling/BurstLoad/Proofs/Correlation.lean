import BurstLoad.Proofs.Numeral
import BurstLoad.Proofs.Frame.Arrival
import BurstLoad.Proofs.Payload
import Mathlib.Algebra.Group.Nat.Defs

/-! The numbers by which a sample that was sent and the same sample received are paired. The sender
announces a number and a verbose receiver reports one, each from what it has; they are the same number,
and two samples have one number only if they are of one run and of bursts whose counts agree modulo
`2^24`. -/

set_option autoImplicit false

namespace BurstLoad

/-! Numbers in the log. -/

namespace Notice

/-- The number that a notice gives after some words, up to the comma behind it. -/
def numberAfter? (words : String) (n : Notice) : Option Nat :=
  (n.text.toList.dropPrefix? words.toList).bind fun rest =>
    Text.readNatural? (rest.takeWhile (· != ','))

/-- The number that the sender announces for a sample. -/
def announced? (n : Notice) : Option Nat :=
  if n.level = .info ∧ n.part = .generator then n.numberAfter? "Sending sample transaction " else none

/-- The number that a receiver reports for a sample. -/
def reported? (n : Notice) : Option Nat :=
  if n.level = .info ∧ n.part = .listener then n.numberAfter? "Received sample transaction " else none

theorem numberAfter?_eq {words : String} {n : Notice} {k : Nat} (rest : List Char)
    (text : n.text.toList = words.toList ++ (Nat.toDigits 10 k ++ ',' :: rest))
    (short : k < 10 ^ Text.maxDigits) : n.numberAfter? words = some k := by
  have digits : ∀ c ∈ Nat.toDigits 10 k, (c != ',') = true := by
    intro c member
    rw [bne_iff_ne]
    rintro rfl
    exact absurd (Text.isDigit_toDigits k ',' member) (by decide)
  have least : (Nat.toDigits 10 k).length ≤ Text.maxDigits :=
    (Nat.length_toDigits_le_iff (by decide) (by decide)).mpr short
  rw [numberAfter?, text, List.dropPrefix?_append_of_beq _ (by simp), Option.bind_some,
    List.takeWhile_append_of_pos digits]
  simp [Text.readNatural?_toDigits least]

end Notice

namespace Payload

/-- The number of a sample. -/
def pairing (c : Counters) : Nat :=
  (sampleId (sampleTag c.burst) c.runId).toNat

/-- A run identifier that was accepted. -/
def Counters.IsStarted (c : Counters) : Prop :=
  0 ≤ c.runId ∧ c.runId ≤ Bytes.maxWord
  deriving Decidable

theorem sampleTag_bounds (burst : Int) : 0 ≤ sampleTag burst ∧ sampleTag burst < sampleTagCount :=
  ⟨Int.emod_nonneg burst (by decide), Int.emod_lt_of_pos burst (by decide)⟩

variable {c d : Counters}

theorem pairing_cast (started : c.IsStarted) :
    (pairing c : Int) = sampleId (sampleTag c.burst) c.runId := by
  obtain ⟨low, -⟩ := started
  obtain ⟨tag, -⟩ := sampleTag_bounds c.burst
  apply Int.toNat_of_nonneg
  unfold sampleId Bytes.wordCount
  omega

theorem pairing_lt (started : c.IsStarted) : pairing c < 10 ^ Text.maxDigits := by
  have cast := pairing_cast started
  obtain ⟨-, high⟩ := started
  obtain ⟨-, tag⟩ := sampleTag_bounds c.burst
  unfold sampleId Bytes.wordCount at cast
  unfold Bytes.maxWord at high
  unfold sampleTagCount at tag
  have small : pairing c < 10 ^ 17 := by
    omega
  exact Nat.lt_of_lt_of_le small (Nat.pow_le_pow_right (by decide) (by decide))

/-- Samples have one number exactly if they are of one run and their bursts have one tag. -/
theorem pairing_eq_iff (cStarted : c.IsStarted) (dStarted : d.IsStarted) :
    pairing c = pairing d ↔
      c.runId = d.runId ∧ c.burst % sampleTagCount = d.burst % sampleTagCount := by
  have first := pairing_cast cStarted
  have second := pairing_cast dStarted
  obtain ⟨low, high⟩ := cStarted
  obtain ⟨low', high'⟩ := dStarted
  change _ ↔ _ ∧ sampleTag c.burst = sampleTag d.burst
  unfold sampleId Bytes.wordCount at first second
  unfold Bytes.maxWord at high high'
  omega

theorem announced?_sampleNotice (started : c.IsStarted) :
    (sampleNotice c).announced? = some (pairing c) := by
  have text : (sampleNotice c).text.toList = "Sending sample transaction ".toList ++
      (Nat.toDigits 10 (pairing c) ++ ',' :: (" (client " ++ toString c.runId ++ ", count " ++
        toString c.burst ++ ")").toList) := by
    have digits : toString (sampleId (sampleTag c.burst) c.runId) =
        String.ofList (Nat.toDigits 10 (pairing c)) := by
      rw [← pairing_cast started]
      exact Nat.toString_eq_ofList_toDigits
    simp [sampleNotice, digits]
  rw [Notice.announced?, if_pos ⟨rfl, rfl⟩]
  exact Notice.numberAfter?_eq _ text (pairing_lt started)

/-- A receiver sees in a sample what the number was made of. -/
theorem sampleId_word (started : c.IsStarted) :
    sampleId (word (sampleTag c.burst)) (word c.runId) = pairing c := by
  obtain ⟨tag, bound⟩ := sampleTag_bounds c.burst
  have whole : sampleTag c.burst ≤ Bytes.maxWord := by
    unfold sampleTagCount at bound
    unfold Bytes.maxWord
    omega
  rw [pairing_cast started, word_eq_toNat tag whole, word_eq_toNat started.1 started.2,
    Int.toNat_of_nonneg tag, Int.toNat_of_nonneg started.1]

theorem word_sampleTag_ne (burst : Int) : word (sampleTag burst) ≠ fillerTag := by
  have bounded := Int.emod_lt_of_pos burst (show (0 : Int) < sampleTagCount by decide)
  rw [word_sampleTag]
  unfold sampleTagCount at *
  unfold fillerTag
  omega

theorem reported?_noticeOf_sample (started : c.IsStarted) (size : Nat) (peer : Peer) :
    (Receiver.noticeOf (build (sampleTag c.burst) c.runId size) peer).reported? =
      some (pairing c) := by
  have digits : toString (sampleId (word (sampleTag c.burst)) (word c.runId)) =
      String.ofList (Nat.toDigits 10 (pairing c)) := by
    rw [sampleId_word started]
    exact Nat.toString_eq_ofList_toDigits
  unfold Receiver.noticeOf
  simp only [header?_build, if_neg (word_sampleTag_ne c.burst), digits]
  rw [Notice.reported?, if_pos ⟨rfl, rfl⟩]
  refine Notice.numberAfter?_eq (" (client " ++ toString (word c.runId) ++ ", count " ++
    toString (word (sampleTag c.burst)) ++ ", " ++
    toString (build (sampleTag c.burst) c.runId size).length ++ " B)").toList ?_ (pairing_lt started)
  simp

namespace Generator

inductive Call where
  | next
  | advanceBurst

/-- What a generator makes in a row of calls, each time with the counters that it had then. -/
def made (g : Generator) : List Call → List (Counters × Emission)
  | [] => []
  | .next :: calls => (g.counters, g.next.2) :: g.next.1.made calls
  | .advanceBurst :: calls => g.advanceBurst.made calls

variable {g : Generator} {calls : List Call} {m : Counters × Emission}

/-- No call changes of which kind a generator is and which run it belongs to. -/
theorem exists_next_of_made (member : m ∈ g.made calls) :
    ∃ h : Generator, h.honest = g.honest ∧ h.counters.runId = g.counters.runId ∧
      m = (h.counters, h.next.2) := by
  induction calls generalizing g with
  | nil => cases member
  | cons call rest ih =>
    cases call with
    | next =>
      obtain rfl | later := List.mem_cons.mp member
      · exact ⟨g, rfl, rfl, rfl⟩
      · have advanced := (Advanced.refl g).next
        obtain ⟨h, honest, runId, same⟩ := ih later
        exact ⟨h, honest.trans advanced.honest, runId.trans advanced.runId, same⟩
    | advanceBurst =>
      obtain ⟨h, honest, runId, same⟩ := ih member
      exact ⟨h, honest, runId, same⟩

theorem made_of_honest (honest : g.honest = true) (member : m ∈ g.made calls) :
    m.1.runId = g.counters.runId ∧ m.2.notices = [sampleNotice m.1] ∧
      ∃ size, m.2.payload = build (sampleTag m.1.burst) m.1.runId size := by
  obtain ⟨h, kind, runId, rfl⟩ := exists_next_of_made member
  rw [next_of_honest (kind.trans honest)]
  exact ⟨runId, rfl, h.size, rfl⟩

theorem made_of_filler (filler : g.honest = false) (member : m ∈ g.made calls) :
    m.2.notices = [] ∧ ∃ nonce size, m.2.payload = build fillerTag nonce size := by
  obtain ⟨h, kind, -, rfl⟩ := exists_next_of_made member
  rw [next_of_filler (kind.trans filler)]
  exact ⟨rfl, _, h.size, rfl⟩

/-- What a generator makes can be followed in the log. -/
structure IsCorrelated (g : Generator) (calls : List Call) : Prop where
  /-- Every payload that fits into a frame is read back, and can be handed to a receiver. -/
  arrives : ∀ m ∈ g.made calls, Frame.Arrives m.2.payload
  /-- A sample is announced once, and a receiver reports it under the announced number: never as a
  filler. -/
  paired : g.honest = true → ∀ m ∈ g.made calls, ∀ (r : Receiver) (peer : Peer), r.verbose = true →
    ∃ sent received number, m.2.notices = [sent] ∧
      (r.dispatch m.2.payload peer).2.1 = [received] ∧
      sent.announced? = some number ∧ received.reported? = some number
  /-- A filler is not announced, and a receiver says nothing of it that is kept at the usual level. -/
  aside : g.honest = false → ∀ m ∈ g.made calls, m.2.notices = [] ∧
    ∀ (r : Receiver) (peer : Peer), ∀ n ∈ (r.dispatch m.2.payload peer).2.1, n.level = .debug
  /-- One number stands for one run and for the counts of bursts that are the same modulo `2^24`. -/
  unambiguous : g.honest = true → ∀ (h : Generator) (others : List Call), h.honest = true →
    h.counters.IsStarted → ∀ m ∈ g.made calls, ∀ k ∈ h.made others,
    ∀ first ∈ m.2.notices, ∀ second ∈ k.2.notices,
      (first.announced? = second.announced? ↔
        m.1.runId = k.1.runId ∧ m.1.burst % (2 ^ 24 : Nat) = k.1.burst % (2 ^ 24 : Nat))

theorem isCorrelated_of_isStarted (started : g.counters.IsStarted) (calls : List Call) :
    g.IsCorrelated calls where
  arrives m _ := Frame.arrives m.2.payload
  paired honest m member r peer verbose := by
    obtain ⟨runId, said, size, payload⟩ := made_of_honest honest member
    have word : m.1.IsStarted := by
      rw [Counters.IsStarted, runId]
      exact started
    refine ⟨_, Receiver.noticeOf m.2.payload peer, _, said, ?_, announced?_sampleNotice word, ?_⟩
    · rw [Receiver.dispatch, if_pos verbose]
    · rw [payload]
      exact reported?_noticeOf_sample word size peer
  aside filler m member := by
    obtain ⟨silent, nonce, size, payload⟩ := made_of_filler filler member
    refine ⟨silent, fun r peer n heard => ?_⟩
    have noted : (Receiver.noticeOf m.2.payload peer).level = .debug := by
      unfold Receiver.noticeOf
      rw [payload, header?_build]
      rfl
    rw [Receiver.dispatch] at heard
    split at heard
    · rw [List.mem_singleton] at heard
      rw [heard, noted]
    · cases heard
  unambiguous honest h others honest' started' m member k member' first said second said' := by
    obtain ⟨runId, notices, -⟩ := made_of_honest honest member
    obtain ⟨runId', notices', -⟩ := made_of_honest honest' member'
    rw [notices, List.mem_singleton] at said
    rw [notices', List.mem_singleton] at said'
    have word : m.1.IsStarted := by
      rw [Counters.IsStarted, runId]
      exact started
    have word' : k.1.IsStarted := by
      rw [Counters.IsStarted, runId']
      exact started'
    rw [said, said', announced?_sampleNotice word, announced?_sampleNotice word',
      Option.some.injEq]
    exact pairing_eq_iff word word'

/-- Samples of the last run, before and after the tag starts again from zero. -/
def turning : Generator :=
  ⟨true, 8, ⟨4294967295, 0, -1⟩, by decide⟩

theorem isCorrelated_turning :
    turning.counters.IsStarted ∧ turning.IsCorrelated [.next, .advanceBurst, .next] ∧
      (turning.made [.next, .advanceBurst, .next]).map
        (fun m => m.2.notices.map Notice.announced?) =
          [[some 72057594037927935], [some 4294967295]] := by
  have started : turning.counters.IsStarted := by
    decide
  exact ⟨started, isCorrelated_of_isStarted started _, by decide +kernel⟩

end Generator

end Payload

end BurstLoad
