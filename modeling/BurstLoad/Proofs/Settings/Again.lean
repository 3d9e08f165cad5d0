import BurstLoad.Proofs.Settings.Bounds

/-! Settling again. A field that was settled settles to the same once more, with the same failure if it
failed. So it makes no difference for what comes later whether a draft was settled in between. -/

set_option autoImplicit false

namespace BurstLoad.Settings

@[simp] theorem readEndpoint_endpoint (e : Endpoint) : readEndpoint (.endpoint e) = .ok e :=
  rfl

@[simp] theorem readInteger?_int (n : Int) : readInteger? (.int n) = some n :=
  rfl

theorem mapM_readEndpoint_endpoints (es : List Endpoint) :
    (es.map Value.endpoint).mapM readEndpoint = .ok es := by
  induction es with
  | nil => rfl
  | cons e rest ih => simp [List.mapM_cons, ih, pure, Except.pure, bind, Except.bind]

theorem Field.settle_nodes_endpoints (es : List Endpoint) :
    nodes.settle (.list (es.map .endpoint)) = (.list (es.map .endpoint), none) := by
  cases es with
  | nil => rfl
  | cons e rest =>
    simp only [settle, Value.truthy, elements?, Value.opened, mapM_readEndpoint_endpoints]
    simp

/-- Settling a settled field changes nothing and fails as before. -/
theorem Field.settle_settle (f : Field) (v : Value) : f.settle (f.settle v).1 = f.settle v := by
  cases f with
  | target =>
    cases read : readEndpoint v with
    | ok e => simp [settle, read]
    | error failure => simp [settle, read]
  | nodes =>
    cases empty : v.truthy with
    | false =>
      simp only [settle, empty]
      rfl
    | true =>
      cases given : elements? v with
      | none => simp [settle, empty, given]
      | some items =>
        cases read : items.mapM readEndpoint with
        | error failure => simp [settle, empty, given, read]
        | ok es =>
          have first : nodes.settle v = (.list (es.map .endpoint), none) := by
            simp [settle, empty, given, read]
          rw [first, settle_nodes_endpoints]
  | size | rate =>
    cases read : readInteger? v with
    | none => simp [settle, read]
    | some n => simp [settle, read]
  | port =>
    cases read : readInteger? v with
    | none => simp [settle, read]
    | some n =>
      by_cases inside : (0 ≤ n && n ≤ Endpoint.maxPort) = true
      · simp only [settle, read, if_pos inside, readInteger?_int]
      · simp only [settle, read, if_neg inside]
  | burstDuration | probeDelay => rfl
  | isLocal | honest => simp [settle, Value.truthy]

theorem runChecks_runChecks {fields : List Field} (distinct : fields.Nodup) (d : Draft) :
    runChecks (fields.map Field.check) (runChecks (fields.map Field.check) d).1 =
      runChecks (fields.map Field.check) d := by
  induction fields generalizing d with
  | nil => rfl
  | cons f rest ih =>
    obtain ⟨absent, distinct⟩ := List.nodup_cons.mp distinct
    have again := f.settle_settle (d.get f)
    rw [List.map_cons]
    cases outcome : (f.settle (d.get f)).2 with
    | some failure =>
      have still : (f.settle ((d.put f (f.settle (d.get f)).1).get f)).2 = some failure := by
        rw [Draft.get_put_same, again, outcome]
      rw [runChecks_of_failed outcome, runChecks_of_failed still, Draft.get_put_same, again,
        Draft.put_put]
    | none =>
      rw [runChecks_of_passed outcome]
      -- The checks that follow leave the field as it was settled.
      have kept : (runChecks (rest.map Field.check) (d.put f (f.settle (d.get f)).1)).1.get f =
          (f.settle (d.get f)).1 := by
        rw [get_runChecks_of_not_mem absent, Draft.get_put_same]
      rw [runChecks_of_passed (by rw [kept, again, outcome]), kept, again]
      nth_rewrite 2 [← kept]
      rw [Draft.put_get, ih distinct]

namespace Draft

theorem settle_settle (d : Draft) : d.settle.1.settle = d.settle := by
  simp only [settle_eq_runChecks]
  exact runChecks_runChecks Field.nodup_all d

/-! Drafts that no settling can tell apart. -/

/-- Each field settles to the same in both. -/
def Alike (d e : Draft) : Prop :=
  ∀ f : Field, f.settle (d.get f) = f.settle (e.get f)

theorem Alike.trans {d e g : Draft} (first : d.Alike e) (second : e.Alike g) : d.Alike g :=
  fun f => (first f).trans (second f)

/-- A draft that was settled, also if it failed half-way, is like the one before. -/
theorem alike_settle (d : Draft) : d.settle.1.Alike d := by
  intro f
  rcases d.get_settle f with same | same
  · rw [same]
  · rw [same, f.settle_settle]

theorem Alike.set {d e : Draft} (alike : d.Alike e) (key : String) (v : Value) :
    (d.set key v).Alike (e.set key v) := by
  intro f
  rw [get_set, get_set]
  split
  · rfl
  · exact alike f

theorem Alike.failure_eq {d e : Draft} (alike : d.Alike e) : d.settle.2 = e.settle.2 := by
  rw [settle_snd, settle_snd]
  congr 1
  funext f
  rw [alike f]

/-- Sets the values under some keys, one after the other. -/
def assign (d : Draft) (values : List (String × Value)) : Draft :=
  values.foldl (fun d entry => d.set entry.1 entry.2) d

theorem assign_append (d : Draft) (first rest : List (String × Value)) :
    d.assign (first ++ rest) = (d.assign first).assign rest :=
  List.foldl_append

theorem Alike.assign {d e : Draft} (alike : d.Alike e) (values : List (String × Value)) :
    (d.assign values).Alike (e.assign values) := by
  induction values generalizing d e with
  | nil => exact alike
  | cons entry rest ih => exact ih (alike.set entry.1 entry.2)

/-- A draft after some rounds, each of which sets values and then settles the draft. Whether it
settles or fails half-way, the next round goes on with what is there. -/
def afterRounds (d : Draft) (rounds : List (List (String × Value))) : Draft :=
  rounds.foldl (fun d values => (d.assign values).settle.1) d

/-- After any rounds a draft is like the one that holds what was last set under each key. -/
theorem alike_afterRounds (d : Draft) (rounds : List (List (String × Value))) :
    (d.afterRounds rounds).Alike (d.assign rounds.flatten) := by
  suffices h : ∀ {d e : Draft}, d.Alike e → (d.afterRounds rounds).Alike (e.assign rounds.flatten) from
    h fun _ => rfl
  intro d e alike
  induction rounds generalizing d e with
  | nil => exact alike
  | cons values rest ih =>
    rw [List.flatten_cons, assign_append]
    exact ih ((alike_settle (d.assign values)).trans (alike.assign values))

end Draft

/-! Settings of drafts that are alike. -/

/-- Drafts have the same settings, or the same failure, if each field fails alike in both and settles
alike where it does not fail. What is left in a field that fails may differ. -/
theorem settle_congr {d e : Draft} (fails : ∀ f : Field, (f.settle (d.get f)).2 = (f.settle (e.get f)).2)
    (settles : ∀ f : Field, (f.settle (e.get f)).2 = none → f.settle (d.get f) = f.settle (e.get f)) :
    settle d = settle e := by
  cases outcome : settle e with
  | error failure =>
    rw [settle_eq_error_iff, Draft.settle_snd] at outcome ⊢
    rw [← outcome]
    congr 1
    funext f
    exact fails f
  | ok s =>
    rw [settle_eq_ok_iff, Draft.settle_eq_none_iff] at outcome ⊢
    intro f
    rw [settles f (congrArg Prod.snd (outcome f)), outcome f]

theorem settle_of_alike {d e : Draft} (alike : d.Alike e) : settle d = settle e :=
  settle_congr (fun f => congrArg Prod.snd (alike f)) fun f _ => alike f

/-- Settings that were settled once settle to themselves. -/
theorem settle_toDraft {d : Draft} {s : Settings} (settled : settle d = .ok s) :
    settle s.toDraft = .ok s := by
  rw [settle_eq_ok_iff] at settled ⊢
  have again := d.settle_settle
  rwa [settled] at again

/-- Earlier rounds leave no trace: a draft that values are set in fails as the draft does that holds
what was last set under each key, and settles to the same settings; and to settle it at once again
changes no field and fails as before. -/
theorem settle_afterRounds (d : Draft) (rounds : List (List (String × Value)))
    (values : List (String × Value)) :
    let now := (d.afterRounds rounds).assign values
    let given := d.assign (rounds.flatten ++ values)
    now.settle.2 = given.settle.2 ∧ settle now = settle given ∧ now.settle.1.settle = now.settle := by
  have alike := (d.alike_afterRounds rounds).assign values
  rw [← Draft.assign_append] at alike
  exact ⟨alike.failure_eq, settle_of_alike alike, Draft.settle_settle _⟩

end BurstLoad.Settings
