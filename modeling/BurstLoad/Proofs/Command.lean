import BurstLoad.Command
import BurstLoad.Proofs.Session.Outcome
import Mathlib

/-! How a command ends. In a network that only meets network errors its exit code tells whether the target
could not be reached, the listener not be bound or a transaction not be sent, whether it was interrupted, or
whether it stopped as a signal asked. Without a configuration it touches no network. -/

set_option autoImplicit false

namespace BurstLoad.Command

open Session.Record (HasMishap HasInterrupt HasTerminate)

/-- What the configuration of a command comes to, once its log is set up. -/
def SettlesTo (o : CommandLine.Options) (scene : Scene) (result : Except Settings.Failure Settings) :
    Prop :=
  ∃ logging files,
    ({} : Log.Logging).configure o.logSetup scene.terminal scene.files = (logging, files, none) ∧
      (settings o scene.reader files).1 = result

/-- The session that a command goes on with for its configuration. -/
def Scene.Opens (scene : Scene) (s : Settings) (session : Session) : Prop :=
  ∃ counters, scene.counters = .ok counters ∧
    Session.ofSettings? s counters { verbose := s.honest } scene.network = .ok session

/-- The network as a command leaves it. -/
def Report.networkAfter (r : Report) (scene : Scene) : Network :=
  r.session.elim scene.network Session.network

/-- What an exit code tells of a session, by all that happened to it. -/
structure IsCodeOf (record : Session.Record) (code : Nat) : Prop where
  known : code = succeeded ∨ code = failed ∨ code = interrupted
  failed_iff : code = failed ↔ HasMishap record
  interrupted_iff : code = interrupted ↔ HasInterrupt record
  succeeded_iff : code = succeeded ↔
    ¬ HasMishap record ∧ ¬ HasInterrupt record ∧ HasTerminate record

/-- The exit code for an outcome that is accounted for. -/
theorem isCodeOf_conclude {record : Session.Record} {outcome : Outcome Unit}
    (accounted : Session.IsAccountedFor record outcome) :
    ∃ code, (conclude outcome).1 = .exit code ∧ IsCodeOf record code := by
  have failed := accounted.failed
  have cancelled := accounted.cancelled
  cases outcome with
  | returned =>
    have asked := accounted.returned rfl
    simp only [reduceCtorEq, exists_false, false_iff] at failed cancelled
    exact ⟨succeeded, rfl, .inl rfl, by simp [succeeded, Command.failed, failed],
      by simp [succeeded, interrupted, cancelled], by simp [failed, cancelled, asked]⟩
  | failed fault =>
    have known := accounted.known fault rfl
    simp only [reduceCtorEq, false_iff, Outcome.failed.injEq, exists_eq', true_iff] at failed cancelled
    refine ⟨Command.failed, ?_, .inr (.inl rfl), by simp [failed],
      by simp [Command.failed, interrupted, cancelled], by simp [Command.failed, succeeded, failed]⟩
    rw [conclude, if_pos known]
  | cancelled =>
    simp only [reduceCtorEq, exists_false, false_iff, true_iff] at failed cancelled
    exact ⟨interrupted, rfl, .inr (.inr rfl), by simp [interrupted, Command.failed, failed],
      by simp [cancelled], by simp [interrupted, succeeded, cancelled]⟩

section Run

variable {o : CommandLine.Options} {scene : Scene}

theorem withSession_cases (r : Report) (session : Session) (scene : Scene) :
    (r.withSession session scene).ending = .unfinished ∨ ∃ time outcome,
      (session.recorded scene.inputs scene.limit).1.ended = some (time, outcome) ∧
      (r.withSession session scene).session = some (session.recorded scene.inputs scene.limit).1 ∧
      (r.withSession session scene).ending = (conclude outcome).1 := by
  unfold Report.withSession
  dsimp only
  split
  · next time outcome finished ended =>
    rw [Session.state_simulate finished] at ended ⊢
    exact .inr ⟨time, outcome, ended, rfl, rfl⟩
  · exact .inl rfl

/-- Once it is known whether the configuration settles, a command goes on with that. -/
theorem run_of_settlesTo {result : Except Settings.Failure Settings}
    (settles : SettlesTo o scene result) :
    ∃ r : Report, r.handler = scene.handler ∧ r.session = none ∧
      run o scene = r.withSettings result scene := by
  obtain ⟨logging, files, configured, rfl⟩ := settles
  unfold run
  rw [configured]
  exact ⟨_, rfl, rfl, rfl⟩

/-- A command whose configuration is rejected. -/
theorem run_of_rejected {cause : Settings.Rejection}
    (settles : SettlesTo o scene (.error (.rejected cause))) :
    (run o scene).ending = .exit failed ∧ (run o scene).networkAfter scene = scene.network ∧
      (run o scene).handler = scene.handler := by
  obtain ⟨r, handler, sessionless, same⟩ := run_of_settlesTo settles
  rw [same]
  refine ⟨rfl, ?_, handler⟩
  change r.session.elim scene.network Session.network = scene.network
  rw [sessionless]
  rfl

/-- A command whose configuration is accepted either runs a session or ends otherwise than with a code. -/
theorem run_of_accepted {s : Settings} (settles : SettlesTo o scene (.ok s)) :
    (run o scene).handler = scene.handler ∧
      ((∃ r session, scene.Opens s session ∧
          (run o scene).ending = (Report.withSession r session scene).ending ∧
          (run o scene).session = (Report.withSession r session scene).session) ∨
        (∀ session, ¬ scene.Opens s session) ∧ ∀ code, (run o scene).ending ≠ .exit code) := by
  obtain ⟨r, handler, -, same⟩ := run_of_settlesTo settles
  rw [same]
  unfold Report.withSettings
  dsimp only
  cases counted : scene.counters with
  | error failure =>
    refine ⟨handler, .inr ⟨fun session opens => ?_, nofun⟩⟩
    obtain ⟨counters, here, -⟩ := opens
    rw [counted] at here
    cases here
  | ok counters =>
    dsimp only
    cases built : Session.ofSettings? s counters { verbose := s.honest } scene.network with
    | error failure =>
      refine ⟨handler, .inr ⟨fun session opens => ?_, nofun⟩⟩
      obtain ⟨others, here, opened⟩ := opens
      rw [counted] at here
      cases here
      rw [built] at opened
      cases opened
    | ok session => exact ⟨handler, .inl ⟨_, session, ⟨counters, counted, built⟩, rfl, rfl⟩⟩

end Run

/-- How every command ends that does not fail before it has a configuration. Rejected, it exits with the code
of a failure and has touched no network. Accepted, it exits once its session is over, if it meets no errors
but those of the network and is only asked to stop by signals, with the code of what happened to the session.
What a request to terminate does is as it was before. -/
theorem exits_of_settlesTo (o : CommandLine.Options) (scene : Scene) :
    (∀ cause, SettlesTo o scene (.error (.rejected cause)) →
      (run o scene).ending = .exit failed ∧ (run o scene).networkAfter scene = scene.network ∧
        (run o scene).handler = scene.handler) ∧
    ∀ s, SettlesTo o scene (.ok s) → scene.network.IsPlain →
      (∀ input ∈ scene.inputs, input.2.isOutside = true) →
      (run o scene).handler = scene.handler ∧
      (∀ session, scene.Opens s session →
        (run o scene).ending = .unfinished ∨ ∃ code, (run o scene).ending = .exit code) ∧
      ∀ code, (run o scene).ending = .exit code → ∃ session, scene.Opens s session ∧
        (run o scene).session = some (session.recorded scene.inputs scene.limit).1 ∧
        IsCodeOf (session.recorded scene.inputs scene.limit).2 code := by
  refine ⟨fun cause => run_of_rejected, fun s settles plain outside => ?_⟩
  obtain ⟨handler, ⟨r, session, opens, ending, left⟩ | ⟨closed, uncoded⟩⟩ := run_of_accepted settles
  · have told : (run o scene).ending = .unfinished ∨ ∃ code, (run o scene).ending = .exit code ∧
        (run o scene).session = some (session.recorded scene.inputs scene.limit).1 ∧
        IsCodeOf (session.recorded scene.inputs scene.limit).2 code := by
      rw [ending, left]
      obtain unfinished | ⟨time, outcome, ended, kept, concluded⟩ := withSession_cases r session scene
      · exact .inl unfinished
      · obtain ⟨counters, -, built⟩ := opens
        obtain ⟨code, exits, tells⟩ :=
          isCodeOf_conclude (Session.isAccountedFor_recorded built plain outside ended)
        exact .inr ⟨code, concluded.trans exits, kept, tells⟩
    refine ⟨handler, fun _ _ => ?_, fun code exits => ?_⟩
    · obtain unfinished | ⟨code, exits, -⟩ := told
      · exact .inl unfinished
      · exact .inr ⟨code, exits⟩
    · obtain unfinished | ⟨other, same, kept, tells⟩ := told
      · rw [exits] at unfinished
        cases unfinished
      · rw [exits] at same
        cases same
        exact ⟨session, opens, kept, tells⟩
  · exact ⟨handler, fun session opens => absurd opens (closed session),
      fun code exits => absurd exits (uncoded code)⟩

/-- The exit code of a command that came to one. -/
def Ending.code? : Ending → Option Nat
  | .exit code => some code
  | _ => none

theorem Ending.code?_eq_some_iff {ending : Ending} {code : Nat} :
    ending.code? = some code ↔ ending = .exit code := by
  cases ending <;> simp [code?]

/-- Two fillers in each burst. -/
def fillers : CommandLine.Options :=
  { target := some "10.0.0.1:9000", size := .word "9", rate := .word "2", port := .word "9001" }

/-- The second transaction fails after a while, and then closing fails too. -/
def lateBreak : Network where
  plan _ _ := { result := .ok {
    writes := fun n =>
      if n = 0 then {} else { delay := 5, fault := some (.network "BrokenPipeError" "broken") }
    closeFault := some (.network "OSError" "closing") } }

/-- A signal asks for a stop while the transaction that fails is under way. -/
def stoppedScene : Scene where
  network := lateBreak
  counters := .ok ⟨7, 0, 0⟩
  inputs := [(3, .terminate 15)]
  limit := 50

theorem isPlain_lateBreak : lateBreak.IsPlain where
  bind := nofun
  refused := nofun
  opened e k wire opened := by
    cases opened
    refine ⟨fun n fault met => ?_, fun fault met => ?_⟩
    · dsimp only at met
      split at met <;> cases met
      rfl
    · cases met
      rfl

/-- Without a target there is no configuration. With one the failure counts, and not the request to stop nor
the error met while closing. -/
theorem exits_stoppedScene :
    let last := (Session.ofTwoFillers lateBreak).recorded stoppedScene.inputs stoppedScene.limit
    stoppedScene.network.IsPlain ∧ (∀ input ∈ stoppedScene.inputs, input.2.isOutside = true) ∧
      SettlesTo {} stoppedScene (.error (.rejected (.missing "target"))) ∧
      (run {} stoppedScene).ending = .exit failed ∧
      SettlesTo fillers stoppedScene (.ok Session.twoFillers) ∧
      stoppedScene.Opens Session.twoFillers (Session.ofTwoFillers lateBreak) ∧
      (run fillers stoppedScene).ending = .exit failed ∧ last.1.stop = true ∧
      (run fillers stoppedScene).session = some last.1 ∧ IsCodeOf last.2 failed := by
  have outside : ∀ input ∈ stoppedScene.inputs, input.2.isOutside = true := by
    simp [stoppedScene, Session.Input.isOutside]
  have rejected : SettlesTo {} stoppedScene (.error (.rejected (.missing "target"))) :=
    ⟨_, {}, by cbv, by cbv⟩
  have accepted : SettlesTo fillers stoppedScene (.ok Session.twoFillers) := ⟨_, {}, by cbv, by cbv⟩
  have opens : stoppedScene.Opens Session.twoFillers (Session.ofTwoFillers lateBreak) :=
    ⟨⟨7, 0, 0⟩, rfl, Session.ofSettings?_twoFillers lateBreak⟩
  have exits : (run fillers stoppedScene).ending = .exit failed :=
    Ending.code?_eq_some_iff.mp (by decide +kernel)
  obtain ⟨-, -, told⟩ :=
    (exits_of_settlesTo fillers stoppedScene).2 _ accepted isPlain_lateBreak outside
  obtain ⟨session, ⟨counters, counted, built⟩, left, tells⟩ := told failed exits
  cases counted
  cases (Session.ofSettings?_twoFillers lateBreak).symm.trans built
  exact ⟨isPlain_lateBreak, outside, rejected,
    ((exits_of_settlesTo {} stoppedScene).1 _ rejected).1, accepted, opens, exits,
    by decide +kernel, left, tells⟩

end BurstLoad.Command
