import BurstLoad.Proofs.Decimal.Whole
import BurstLoad.Proofs.Settings.Promises
import BurstLoad.Session.Basic

/-! Whether settings that were accepted can be used: their durations in seconds, and the session that is
built of them. What the checks of the durations miss is a whole number that is too great to be
divided, a number so small that no seconds are left of it, and what is no number at all. -/

set_option autoImplicit false

namespace BurstLoad

namespace Settings

open Decimal (tooGreat faintest)

section

-- The range of whole numbers is not to be computed where only its use is looked at.
attribute [local irreducible] Decimal.ofInt?

theorem seconds_int (n : Int) :
    seconds (.int n) = (Decimal.ofInt? n).elim (.error .overflow) fun x => .ok (x / 1000.0) := by
  unfold seconds
  dsimp only
  cases Decimal.ofInt? n <;> rfl

end

/-- Whether seconds can be made of a duration: no whole number can be divided that is too great for a
floating-point number. -/
def isDivisible : Value → Bool
  | .int n => n.natAbs < tooGreat
  | _ => true

section

variable {v : Value}

theorem seconds_of_great (great : isDivisible v = false) : seconds v = .error .overflow := by
  cases v with
  | int n =>
    have none := (Decimal.ofInt?_eq_none_iff n).mpr (by simpa [isDivisible] using great)
    rw [seconds_int, none]
    rfl
  | _ => cases great

theorem isDivisible_of_seconds {x : Float} (lasts : seconds v = .ok x) : isDivisible v = true := by
  by_contra great
  rw [seconds_of_great (by simpa using great)] at lasts
  cases lasts

theorem exists_ofInt? {n : Int} (divisible : isDivisible (.int n) = true) :
    ∃ x, Decimal.ofInt? n = some x := by
  cases read : Decimal.ofInt? n with
  | none =>
    rw [Decimal.ofInt?_eq_none_iff] at read
    have inside : n.natAbs < tooGreat := by simpa [isDivisible] using divisible
    omega
  | some x => exact ⟨x, rfl⟩

theorem pos_of_holds {n : Int} (held : Field.burstDuration.Holds (.int n)) : 0 < n := by
  simp only [Field.Holds, sign?] at held
  split at held
  · simp at held
  · split at held
    · simp at held
    · omega

theorem nonneg_of_holds {n : Int} (held : Field.probeDelay.Holds (.int n)) : 0 ≤ n := by
  simp only [Field.Holds, sign?] at held
  split at held
  · simp at held
  · omega

/-- The seconds of a burst, whose milliseconds are above zero or no number. -/
theorem seconds_burst (held : Field.burstDuration.Holds v) (divisible : isDivisible v = true) :
    ∃ x, seconds v = .ok x ∧ (0 < x ↔ ∀ y, v = .float y → faintest < y) := by
  cases v with
  | bool b =>
    cases b with
    | false => simp [Field.Holds, sign?] at held
    | true =>
      refine ⟨1.0 / 1000.0, rfl, ?_⟩
      have bright : faintest < 1.0 := by
        rw [Decimal.lt_iff]
        rfl
      exact iff_of_true (Decimal.thousandth_pos_iff.mpr bright) (by simp)
  | int n =>
    obtain ⟨x, read⟩ := exists_ofInt? divisible
    refine ⟨x / 1000.0, by rw [seconds_int, read]; rfl, iff_of_true ?_ (by simp)⟩
    exact Decimal.thousandth_pos_iff.mpr (Decimal.faintest_lt_of_ofInt? read (pos_of_holds held))
  | float x =>
    refine ⟨x / 1000.0, rfl, Decimal.thousandth_pos_iff.trans ?_⟩
    simp
  | _ => simp [Field.Holds, sign?] at held

/-- The seconds between two probes, whose milliseconds are not below zero. -/
theorem seconds_probe (held : Field.probeDelay.Holds v) (divisible : isDivisible v = true) :
    ∃ x, seconds v = .ok x ∧ (0 ≤ x ↔ ∀ y, v = .float y → 0 ≤ y) := by
  cases v with
  | bool b =>
    refine ⟨(if b then 1.0 else 0.0) / 1000.0, rfl, iff_of_true ?_ (by simp)⟩
    apply Decimal.thousandth_nonneg
    rw [Decimal.le_iff]
    cases b <;> rfl
  | int n =>
    obtain ⟨x, read⟩ := exists_ofInt? divisible
    refine ⟨x / 1000.0, by rw [seconds_int, read]; rfl, iff_of_true ?_ (by simp)⟩
    exact Decimal.thousandth_nonneg_of_ofInt? read (nonneg_of_holds held)
  | float x =>
    have notBelow : ¬x < 0 := by
      intro below
      simp [Field.Holds, sign?, below] at held
    refine ⟨x / 1000.0, rfl, (Decimal.thousandth_nonneg_iff notBelow).trans ?_⟩
    simp
  | _ => simp [Field.Holds, sign?] at held

end

theorem burst_of_settle {d : Draft} {s : Settings} (settled : settle d = .ok s)
    (divisible : isDivisible s.burstDuration = true) :
    ∃ x, seconds s.burstDuration = .ok x ∧
      (0 < x ↔ ∀ y, s.burstDuration = .float y → faintest < y) :=
  seconds_burst (holds_of_settle settled .burstDuration) divisible

theorem probe_of_settle {d : Draft} {s : Settings} (settled : settle d = .ok s)
    (divisible : isDivisible s.probeDelay = true) :
    ∃ x, seconds s.probeDelay = .ok x ∧ (0 ≤ x ↔ ∀ y, s.probeDelay = .float y → 0 ≤ y) :=
  seconds_probe (holds_of_settle settled .probeDelay) divisible

/-- Settings can be used: their durations in seconds are what the checks of the durations ask for, and
a session is built of them, whose own checks all pass. -/
structure IsUsable (s : Settings) : Prop where
  burst : ∃ x, seconds s.burstDuration = .ok x ∧ 0 < x
  probe : ∃ x, seconds s.probeDelay = .ok x ∧ 0 ≤ x
  settled : settle s.toDraft = .ok s
  session : ∀ counters receiver network,
    ∃ session, Session.ofSettings? s counters receiver network = .ok session

/-- What the checks of the durations do not see to. -/
structure HasFitDurations (s : Settings) : Prop where
  burst : isDivisible s.burstDuration = true
  probe : isDivisible s.probeDelay = true
  bright : ∀ x, s.burstDuration = .float x → faintest < x
  number : ∀ x, s.probeDelay = .float x → 0 ≤ x

end Settings

namespace Session

section

variable {d : Settings.Draft} {s : Settings}

theorem exists_ofRate? (settled : Settings.settle d = .ok s) (nominal : Span)
    (g : Payload.Generator) : ∃ p, Pacer.ofRate? s.rate nominal 0 g = .ok p := by
  have bound := Settings.rate_of_settle settled
  unfold Pacer.ofRate?
  rw [if_neg (by omega)]
  exact ⟨_, rfl⟩

/-- A session of settled settings is built if their durations can be divided. -/
theorem exists_ofSettings? (settled : Settings.settle d = .ok s)
    (burst : Settings.isDivisible s.burstDuration = true)
    (probe : Settings.isDivisible s.probeDelay = true) (counters : Payload.Counters)
    (receiver : Receiver) (network : Network) :
    ∃ session, ofSettings? s counters receiver network = .ok session := by
  obtain ⟨g, sized⟩ := Settings.exists_ofSize? settled counters
  obtain ⟨p, paced⟩ := exists_ofRate? settled (.ofValue s.burstDuration) g
  obtain ⟨delay, delays, -⟩ := Settings.probe_of_settle settled probe
  obtain ⟨nominal, lasts, -⟩ := Settings.burst_of_settle settled burst
  simp only [ofSettings?, sized, delays, lasts, paced, bind, Except.bind]
  exact ⟨_, rfl⟩

/-- No session is built if one of the durations cannot be divided. -/
theorem ofSettings?_of_great (settled : Settings.settle d = .ok s)
    (great : (Settings.isDivisible s.burstDuration && Settings.isDivisible s.probeDelay) = false)
    (counters : Payload.Counters) (receiver : Receiver) (network : Network) :
    ofSettings? s counters receiver network = .error .overflow := by
  obtain ⟨g, sized⟩ := Settings.exists_ofSize? settled counters
  simp only [ofSettings?, sized, bind, Except.bind]
  cases probe : Settings.isDivisible s.probeDelay with
  | false => rw [Settings.seconds_of_great probe]
  | true =>
    obtain ⟨delay, delays, -⟩ := Settings.probe_of_settle settled probe
    rw [probe, Bool.and_true] at great
    rw [delays, Settings.seconds_of_great great]

end

end Session

namespace Settings

theorem isUsable_iff_of_settle {d : Draft} {s : Settings} (settled : settle d = .ok s) :
    s.IsUsable ↔ s.HasFitDurations := by
  constructor
  · rintro ⟨⟨burst, lasts, positive⟩, ⟨probe, delays, nonneg⟩, -, -⟩
    have burstFits := isDivisible_of_seconds lasts
    have probeFits := isDivisible_of_seconds delays
    obtain ⟨_, same, bright⟩ := burst_of_settle settled burstFits
    obtain ⟨_, equal, number⟩ := probe_of_settle settled probeFits
    rw [lasts] at same
    rw [delays] at equal
    cases same
    cases equal
    exact ⟨burstFits, probeFits, bright.mp positive, number.mp nonneg⟩
  · rintro ⟨burst, probe, bright, number⟩
    obtain ⟨x, lasts, positive⟩ := burst_of_settle settled burst
    obtain ⟨y, delays, nonneg⟩ := probe_of_settle settled probe
    exact ⟨⟨x, lasts, positive.mpr bright⟩, ⟨y, delays, nonneg.mpr number⟩,
      settle_toDraft settled, Session.exists_ofSettings? settled burst probe⟩

/-- Settings that were accepted settle to themselves once more, and their session is built or a duration
is too great for seconds. They can be used exactly if their durations are fit for it. -/
theorem isUsable_iff_of_fromEntries {entries : Entries} {s : Settings}
    (accepted : fromEntries entries = .ok s) :
    settle s.toDraft = .ok s ∧
    (∀ counters receiver network failure,
      Session.ofSettings? s counters receiver network = .error failure ↔ failure = .overflow ∧
        (isDivisible s.burstDuration && isDivisible s.probeDelay) = false) ∧
    (s.IsUsable ↔ s.HasFitDurations) := by
  obtain ⟨d, settled⟩ : ∃ d, settle d = .ok s := by
    unfold fromEntries at accepted
    cases read : draftFromEntries entries with
    | error failure =>
      rw [read] at accepted
      cases accepted
    | ok d =>
      rw [read] at accepted
      exact ⟨d, accepted⟩
  refine ⟨settle_toDraft settled, fun counters receiver network failure => ?_,
    isUsable_iff_of_settle settled⟩
  cases fits : isDivisible s.burstDuration && isDivisible s.probeDelay with
  | true =>
    obtain ⟨burst, probe⟩ := (Bool.and_eq_true _ _).mp fits
    obtain ⟨session, built⟩ :=
      Session.exists_ofSettings? settled burst probe counters receiver network
    simp [built]
  | false =>
    rw [Session.ofSettings?_of_great settled fits]
    simp [eq_comm]

/-- A configuration by the duration of its bursts. -/
def lastingEntries (v : Value) : Entries := [
  (.text "target", .text "127.0.0.1:9000"), (.text "size", .int 9), (.text "rate", .int 1),
  (.text "port", .int 0), (.text "burst_duration_ms", v)]

def lasting (v : Value) : Settings :=
  ⟨⟨"127.0.0.1", 9000⟩, 9, 1, 0, [], false, false, v, .int 10⟩

theorem fromEntries_lasting {v : Value} (held : Field.burstDuration.Holds v) :
    fromEntries (lastingEntries v) = .ok (lasting v) := by
  change settle ⟨.text "127.0.0.1:9000", .int 9, .int 1, .int 0, .list [], .bool false, .bool false,
    v, .int 10⟩ = _
  rw [settle_eq_ok_iff, Draft.settle_eq_none_iff]
  intro f
  cases f with
  | burstDuration =>
    rcases held with positive | unordered
    · simp [Field.settle, Draft.get, lasting, toDraft, positive]
    · simp [Field.settle, Draft.get, lasting, toDraft, unordered]
  | _ => rfl

/-- Bursts of a second can be used. -/
theorem isUsable_lasting_second : (lasting (.int 1000)).IsUsable := by
  have held : Field.burstDuration.Holds (.int 1000) := .inl rfl
  have second : isDivisible (.int 1000) = true := decide_eq_true (Decimal.lt_tooGreat_of_lt (by decide))
  have delay : isDivisible (.int 10) = true := decide_eq_true (Decimal.lt_tooGreat_of_lt (by decide))
  obtain ⟨-, -, usable⟩ := isUsable_iff_of_fromEntries (fromEntries_lasting held)
  exact usable.mpr ⟨second, delay, by simp [lasting], by simp [lasting]⟩

theorem not_isUsable_of_faint {x : Float} (faint : ¬Decimal.faintest < x) :
    ¬(lasting (.float x)).IsUsable := by
  rintro ⟨⟨y, same, positive⟩, -, -, -⟩
  cases same
  exact faint (Decimal.thousandth_pos_iff.mp positive)

theorem not_isUsable_of_great {n : Nat} (great : Decimal.tooGreat ≤ n) :
    Field.burstDuration.Holds (.int n) ∧ ¬(lasting (.int n)).IsUsable := by
  have positive : 0 < Decimal.tooGreat := Decimal.lt_tooGreat_of_lt (by decide)
  have above : ¬(n : Int) < 0 := by omega
  have nonzero : ¬(n : Int) = 0 := by omega
  have indivisible : isDivisible (.int n) = false := decide_eq_false (Nat.not_lt.mpr great)
  refine ⟨.inl ?_, ?_⟩
  · rw [sign?, if_neg above, if_neg nonzero]
  · rintro ⟨⟨y, same, -⟩, -, -, -⟩
    rw [lasting, seconds_of_great indivisible] at same
    cases same

/-- Bursts of a duration that is accepted, but cannot be used. -/
def IsMissed (v : Value) : Prop :=
  fromEntries (lastingEntries v) = .ok (lasting v) ∧ ¬(lasting v).IsUsable

/-- The least number above zero, no number, and a number with hundreds of digits. -/
theorem isMissed_faint_nan_great :
    IsMissed (.float (.ofBits 1)) ∧ IsMissed (.float (.ofBits 0x7ff8000000000000)) ∧
      IsMissed (.int (Nat.pow 10 400)) := by
  obtain ⟨held, unusable⟩ := not_isUsable_of_great Decimal.tooGreat_le
  exact ⟨⟨fromEntries_lasting (.inl rfl), not_isUsable_of_faint (by decide)⟩,
    ⟨fromEntries_lasting (.inr rfl), not_isUsable_of_faint (by decide)⟩,
    fromEntries_lasting held, unusable⟩

end Settings

end BurstLoad
