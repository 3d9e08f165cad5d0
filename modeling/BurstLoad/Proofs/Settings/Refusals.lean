import BurstLoad.Proofs.Settings.Bounds
import BurstLoad.Proofs.Settings.Entries
import BurstLoad.Settings.File

/-! How reading a configuration fails. Most failures are rejections, which say what is wrong with the
configuration. The others escape from a check that is handed a value of a type it cannot handle, or
from the reading of the file. -/

set_option autoImplicit false

namespace BurstLoad.Settings

/-- The failure of a row of readings is that of the first element that does not read. -/
theorem mapM_eq_error_iff {α β ε : Type} {f : α → Except ε β} {xs : List α} {e : ε} :
    xs.mapM f = .error e ↔ ∃ before x after, xs = before ++ x :: after ∧
      (∀ y ∈ before, ∃ r, f y = .ok r) ∧ f x = .error e := by
  induction xs with
  | nil => simp [pure, Except.pure]
  | cons x rest ih =>
    rw [List.mapM_cons]
    cases first : f x with
    | error other =>
      constructor
      · intro failed
        cases failed
        exact ⟨[], x, rest, rfl, by simp, first⟩
      · rintro ⟨before, y, after, split, read, failed⟩
        cases before with
        | nil =>
          cases split
          rw [first] at failed
          cases failed
          rfl
        | cons z before =>
          cases split
          obtain ⟨r, read⟩ := read _ List.mem_cons_self
          rw [first] at read
          cases read
    | ok r =>
      have later : (do let rs ← rest.mapM f; pure (r :: rs)) = .error e ↔ rest.mapM f = .error e := by
        cases rest.mapM f <;> simp [bind, Except.bind, pure, Except.pure]
      refine later.trans (ih.trans ?_)
      constructor
      · rintro ⟨before, y, after, rfl, read, failed⟩
        refine ⟨x :: before, y, after, rfl, ?_, failed⟩
        simpa [first] using read
      · rintro ⟨before, y, after, split, read, failed⟩
        cases before with
        | nil =>
          cases split
          rw [first] at failed
          cases failed
        | cons z before =>
          cases split
          exact ⟨before, y, after, rfl, fun w member => read w (List.mem_cons_of_mem _ member), failed⟩

/-! The checks that meet a value they cannot handle. -/

/-- A value that is no socket address, and has no text that the rejection could show. -/
def IsUnwritable (v : Value) : Prop :=
  v.isShowable = false ∧ ∀ e, v ≠ .endpoint e

theorem readEndpoint_eq_unshowable_iff {v : Value} :
    readEndpoint v = .error .unshowable ↔ IsUnwritable v := by
  unfold IsUnwritable
  cases v with
  | endpoint e => simp [readEndpoint]
  | text s =>
    simp only [readEndpoint, addressFailure, Value.isShowable, if_true]
    cases Endpoint.read? s.toList <;> simp
  | _ => simp [readEndpoint, addressFailure]

theorem eq_unshowable_of_readEndpoint {v : Value} {failure : Failure}
    (failed : readEndpoint v = .error failure) (escapes : failure.isRejection = false) :
    failure = .unshowable := by
  unfold readEndpoint at failed
  have shown : addressFailure v = failure → failure = .unshowable := by
    intro same
    unfold addressFailure at same
    split at same
    · rw [← same] at escapes
      cases escapes
    · exact same.symm
  split at failed
  · cases failed
  · split at failed
    · cases failed
    · exact shown (Except.error.inj failed)
  · exact shown (Except.error.inj failed)

/-- The check of a field cannot handle its value. -/
inductive Field.Baffles : Field → Value → Failure → Prop where
  | target {v : Value} (unwritable : IsUnwritable v) : Baffles .target v .unshowable
  | node {v u : Value} {before after : List Value} (given : v.truthy = true)
      (elements : elements? v = some (before ++ u :: after))
      (read : ∀ w ∈ before, ∃ e, readEndpoint w = .ok e) (unwritable : IsUnwritable u) :
      Baffles .nodes v .unshowable
  | nodes {v : Value} (given : v.truthy = true) (single : elements? v = none) :
      Baffles .nodes v (.noElements v)
  | burstDuration {v : Value} (unordered : sign? v = none) :
      Baffles .burstDuration v (.noOrder v .atMost)
  | probeDelay {v : Value} (unordered : sign? v = none) : Baffles .probeDelay v (.noOrder v .below)

theorem Field.Baffles.fails {f : Field} {v : Value} {failure : Failure} (baffles : f.Baffles v failure) :
    (f.settle v).2 = some failure ∧ failure.isRejection = false := by
  cases baffles with
  | target unwritable =>
    simp [settle, readEndpoint_eq_unshowable_iff.mpr unwritable, Failure.isRejection]
  | @node _ u before after given elements read unwritable =>
    have unread := readEndpoint_eq_unshowable_iff.mpr unwritable
    have failed : (before ++ u :: after).mapM readEndpoint = .error .unshowable :=
      mapM_eq_error_iff.mpr ⟨before, u, after, rfl, read, unread⟩
    simp [settle, given, elements, failed, Failure.isRejection]
  | nodes given single => simp [settle, given, single, Failure.isRejection]
  | burstDuration unordered | probeDelay unordered => simp [settle, unordered, Failure.isRejection]

/-- Whatever is given for a size, a rate or a port, it is rejected if it is not one. -/
theorem Field.isRejection_of_integer {f : Field} {v : Value} {failure : Failure}
    (failed : (f.settle v).2 = some failure) (integer : f = .size ∨ f = .rate ∨ f = .port) :
    failure.isRejection = true := by
  rcases integer with rfl | rfl | rfl
  all_goals
    simp only [settle] at failed
    repeat' split at failed
    all_goals cases failed
    all_goals rfl

theorem Field.baffles_nodes {v : Value} {failure : Failure}
    (failed : (nodes.settle v).2 = some failure) (escapes : failure.isRejection = false) :
    nodes.Baffles v failure := by
  simp only [settle] at failed
  split at failed
  · cases failed
  · next given =>
    have given : v.truthy = true := by simpa using given
    split at failed
    · next single =>
      cases failed
      exact .nodes given single
    · next items elements =>
      split at failed
      · cases failed
      · next unread =>
        cases failed
        obtain ⟨before, u, after, rfl, read, unread⟩ := mapM_eq_error_iff.mp unread
        obtain rfl := eq_unshowable_of_readEndpoint unread escapes
        exact .node given elements read (readEndpoint_eq_unshowable_iff.mp unread)

/-- A check fails with no rejection exactly at a value that it cannot handle. -/
theorem Field.baffles_iff {f : Field} {v : Value} {failure : Failure} :
    (f.settle v).2 = some failure ∧ failure.isRejection = false ↔ f.Baffles v failure := by
  refine ⟨?_, Baffles.fails⟩
  rintro ⟨failed, escapes⟩
  cases f with
  | target =>
    simp only [settle] at failed
    split at failed
    · cases failed
    · next unread =>
      cases failed
      obtain rfl := eq_unshowable_of_readEndpoint unread escapes
      exact .target (readEndpoint_eq_unshowable_iff.mp unread)
  | nodes => exact baffles_nodes failed escapes
  | size | rate | port =>
    rw [isRejection_of_integer failed (by simp)] at escapes
    cases escapes
  | burstDuration =>
    simp only [settle] at failed
    split at failed
    · next unordered =>
      cases failed
      exact .burstDuration unordered
    · split at failed <;> cases failed
      cases escapes
  | probeDelay =>
    simp only [settle] at failed
    split at failed
    · next unordered =>
      cases failed
      exact .probeDelay unordered
    · split at failed <;> cases failed
      cases escapes
  | isLocal | honest => cases failed

/-! Drafts, mappings and files. -/

/-- A check of a draft cannot handle its value, and the checks before it pass. -/
def Draft.Escapes (d : Draft) (failure : Failure) : Prop :=
  ∃ before f after, Field.all = before ++ f :: after ∧
    (∀ g ∈ before, (g.settle (d.get g)).2 = none) ∧ f.Baffles (d.get f) failure

theorem Draft.escapes_iff {d : Draft} {failure : Failure} :
    d.settle.2 = some failure ∧ failure.isRejection = false ↔ d.Escapes failure := by
  rw [settle_snd, List.findSome?_eq_some_iff]
  constructor
  · rintro ⟨⟨before, f, after, split, failed, passed⟩, escapes⟩
    exact ⟨before, f, after, split, passed, Field.baffles_iff.mp ⟨failed, escapes⟩⟩
  · rintro ⟨before, f, after, split, passed, baffles⟩
    obtain ⟨failed, escapes⟩ := baffles.fails
    exact ⟨⟨before, f, after, split, failed, passed⟩, escapes⟩

theorem name?_eq_some_iff {key : Value} {name : String} :
    name? key = some name ↔ key = .text name := by
  cases key <;> simp [name?]

theorem name?_eq_none {key : Value} (other : ∀ k, key ≠ .text k) : name? key = none := by
  rw [Option.eq_none_iff_forall_ne_some]
  exact fun k named => other k (name?_eq_some_iff.mp named)

theorem unknownKeys_cons (key v : Value) (rest : Entries) : unknownKeys ((key, v) :: rest) =
    if isKnownKey key then unknownKeys rest else key :: unknownKeys rest := by
  rw [unknownKeys, List.map_cons, List.filter_cons]
  cases isKnownKey key <;> rfl

@[simp] theorem unknownKeys?_nil : unknownKeys? [] = some [] :=
  rfl

theorem unknownKeys?_cons_text (k : String) (v : Value) (rest : Entries) :
    unknownKeys? ((.text k, v) :: rest) = (unknownKeys? rest).map fun keys =>
      if (requiredKeys ++ optionalKeys).contains k then keys else k :: keys := by
  have known : isKnownKey (.text k) = (requiredKeys ++ optionalKeys).contains k := rfl
  rw [unknownKeys?, unknownKeys?, unknownKeys_cons, known]
  cases (requiredKeys ++ optionalKeys).contains k with
  | true => simp
  | false =>
    rw [if_neg Bool.false_ne_true, List.mapM_cons]
    cases (unknownKeys rest).mapM name? <;> rfl

theorem unknownKeys?_cons_other {key : Value} (other : ∀ k, key ≠ .text k) (v : Value)
    (rest : Entries) : unknownKeys? ((key, v) :: rest) = none := by
  have unknown : isKnownKey key = false := by rw [isKnownKey, name?_eq_none other, Option.any_none]
  rw [unknownKeys?, unknownKeys_cons, unknown, if_neg Bool.false_ne_true, List.mapM_cons,
    name?_eq_none other]
  rfl

/-- Some key of a mapping is no text, so that the keys of the mapping cannot be sorted or shown. -/
def HasStrangeKey (entries : Entries) : Prop :=
  ∃ entry ∈ entries, ∀ k, entry.1 ≠ .text k

/-- All keys of a mapping are keys of a configuration. -/
def HasKnownKeys (entries : Entries) : Prop :=
  ∀ entry ∈ entries, ∃ k ∈ requiredKeys ++ optionalKeys, entry.1 = .text k

theorem unknownKeys?_eq_none_iff {entries : Entries} :
    unknownKeys? entries = none ↔ HasStrangeKey entries := by
  unfold HasStrangeKey
  induction entries using entries_induction with
  | nil => simp
  | text k v rest ih => simp [unknownKeys?_cons_text, ih]
  | other key v rest strange _ => simp [unknownKeys?_cons_other strange, strange]

theorem unknownKeys?_eq_nil_iff {entries : Entries} :
    unknownKeys? entries = some [] ↔ HasKnownKeys entries := by
  unfold HasKnownKeys
  induction entries using entries_induction with
  | nil => simp
  | text k v rest ih =>
    rw [List.forall_mem_cons, ← ih, unknownKeys?_cons_text]
    generalize requiredKeys ++ optionalKeys = names
    by_cases known : k ∈ names <;> simp [known]
  | other key v rest strange _ => simp [unknownKeys?_cons_other strange, strange]

/-- What escapes from a mapping: some key is no text, or the keys are those of a configuration and a
check of the draft cannot handle its value. -/
inductive Escapes (entries : Entries) : Failure → Prop where
  | strangeKey (strange : HasStrangeKey entries) :
      Escapes entries (.strangeKeys (unknownKeys entries))
  | check {failure : Failure} (known : HasKnownKeys entries) (complete : missingKey? entries = none)
      (escapes : (draftOf entries).Escapes failure) : Escapes entries failure

theorem escapes_iff {entries : Entries} {failure : Failure} :
    fromEntries entries = .error failure ∧ failure.isRejection = false ↔ Escapes entries failure := by
  simp only [fromEntries, draftFromEntries]
  constructor
  · rintro ⟨failed, escapes⟩
    split at failed
    · next strange =>
      cases failed
      exact .strangeKey (unknownKeys?_eq_none_iff.mp strange)
    · next known =>
      split at failed
      · cases failed
        cases escapes
      · next complete =>
        have failed := settle_eq_error_iff.mp failed
        exact .check (unknownKeys?_eq_nil_iff.mp known) complete
          (Draft.escapes_iff.mp ⟨failed, escapes⟩)
    · cases failed
      cases escapes
  · intro escapes
    cases escapes with
    | strangeKey strange =>
      rw [unknownKeys?_eq_none_iff.mpr strange]
      exact ⟨rfl, rfl⟩
    | check known complete escapes =>
      obtain ⟨failed, escapes⟩ := Draft.escapes_iff.mpr escapes
      rw [unknownKeys?_eq_nil_iff.mpr known]
      simp only [complete]
      exact ⟨settle_eq_error_iff.mpr failed, escapes⟩

/-- What escapes from the reading of a file: its path, or what is in it. -/
inductive EscapesLoad (reader : Reader) (fs : Files) (path : String) : Failure → Prop where
  | path (unusable : fs.read (.ofText path) = .error .zeroInside) :
      EscapesLoad reader fs path .unusablePath
  | bytes {bytes : ByteArray} (read : fs.read (.ofText path) = .ok bytes)
      (undecodable : reader bytes = .error .undecodable) : EscapesLoad reader fs path .undecodable
  | scalar {bytes : ByteArray} {misfit : Yaml.Misfit} (read : fs.read (.ofText path) = .ok bytes)
      (unconvertible : reader bytes = .error (.unconvertible misfit)) :
      EscapesLoad reader fs path (.unconvertible misfit)

theorem isRejection_of_entriesOf {path : String} {v : Value} {failure : Failure}
    (failed : entriesOf path v = .error failure) : failure.isRejection = true := by
  unfold entriesOf at failed
  split at failed <;> cases failed
  rfl

theorem escapesLoad_iff {reader : Reader} {fs : Files} {path : String} {failure : Failure} :
    load reader fs path = .error failure ∧ failure.isRejection = false ↔
      EscapesLoad reader fs path failure := by
  simp only [load]
  constructor
  · rintro ⟨failed, escapes⟩
    split at failed
    · next unusable =>
      cases failed
      exact .path unusable
    · cases failed
      cases escapes
    · next bytes read =>
      cases reading : reader bytes with
      | ok v =>
        simp only [reading, Except.mapError, bind, Except.bind] at failed
        rw [isRejection_of_entriesOf failed] at escapes
        cases escapes
      | error unread =>
        simp only [reading, Except.mapError, bind, Except.bind, Except.error.injEq] at failed
        subst failed
        cases unread with
        | undecodable => exact .bytes read reading
        | malformed => cases escapes
        | unconvertible => exact .scalar read reading
  · intro escapes
    cases escapes with
    | path unusable => simp [unusable, Failure.isRejection]
    | bytes read unread | scalar read unread =>
      simp [read, unread, Unread.failure, Failure.isRejection, Except.mapError, bind, Except.bind]

/-- Why the bytes of a file give no value, if they are read as YAML. -/
theorem yaml_eq_error_iff {bytes : ByteArray} {unread : Unread} :
    yaml bytes = .error unread ↔
      String.fromUTF8? bytes = none ∧ unread = .undecodable ∨
        ∃ text, String.fromUTF8? bytes = some text ∧
          (Yaml.read text = .error .malformed ∧ unread = .malformed malformedReason ∨
            ∃ misfit, Yaml.read text = .error (.misfit misfit) ∧ unread = .unconvertible misfit) := by
  unfold yaml
  cases String.fromUTF8? bytes with
  | none => simp [eq_comm]
  | some text =>
    cases reading : Yaml.read text with
    | ok => simp [reading]
    | error failure => cases failure <;> simp [reading, eq_comm]

/-- What escapes from the reading of YAML, by the bytes of the file. -/
theorem escapesLoad_yaml_iff {fs : Files} {path : String} {failure : Failure} :
    EscapesLoad yaml fs path failure ↔
      fs.read (.ofText path) = .error .zeroInside ∧ failure = .unusablePath ∨
        ∃ bytes, fs.read (.ofText path) = .ok bytes ∧
          (String.fromUTF8? bytes = none ∧ failure = .undecodable ∨
            ∃ text misfit, String.fromUTF8? bytes = some text ∧
              Yaml.read text = .error (.misfit misfit) ∧ failure = .unconvertible misfit) := by
  constructor
  · intro escapes
    cases escapes with
    | path unusable => exact .inl ⟨unusable, rfl⟩
    | bytes read undecodable =>
      obtain ⟨undecoded, -⟩ | ⟨text, -, ⟨-, ⟨⟩⟩ | ⟨misfit, -, ⟨⟩⟩⟩ := yaml_eq_error_iff.mp undecodable
      exact .inr ⟨_, read, .inl ⟨undecoded, rfl⟩⟩
    | scalar read unconvertible =>
      obtain ⟨-, ⟨⟩⟩ | ⟨text, decoded, ⟨-, ⟨⟩⟩ | ⟨misfit, misread, ⟨⟩⟩⟩ :=
        yaml_eq_error_iff.mp unconvertible
      exact .inr ⟨_, read, .inr ⟨text, _, decoded, misread, rfl⟩⟩
  · rintro (⟨unusable, rfl⟩ | ⟨bytes, read, ⟨undecoded, rfl⟩ | ⟨text, misfit, decoded, misread, rfl⟩⟩)
    · exact .path unusable
    · exact .bytes read (yaml_eq_error_iff.mpr (.inl ⟨undecoded, rfl⟩))
    · exact .scalar read (yaml_eq_error_iff.mpr (.inr ⟨text, decoded, .inr ⟨_, misread, rfl⟩⟩))

/-- What escapes from a file and the values that override its entries. -/
inductive EscapesFile (reader : Reader) (fs : Files) (path : String)
    (overrides : List (String × Value)) : Failure → Prop where
  | load {failure : Failure} (escapes : EscapesLoad reader fs path failure) :
      EscapesFile reader fs path overrides failure
  | name {entries : Entries} {notices : List Notice}
      (loaded : load reader fs path = .ok (entries, notices))
      (reserved : ∃ o ∈ overrides, o.1 = fileName) :
      EscapesFile reader fs path overrides (.nameTaken fileName)
  | entries {entries : Entries} {notices : List Notice} {failure : Failure}
      (loaded : load reader fs path = .ok (entries, notices))
      (free : ¬∃ o ∈ overrides, o.1 = fileName)
      (escapes : Escapes (overlay entries overrides) failure) :
      EscapesFile reader fs path overrides failure

theorem escapesFile_iff {reader : Reader} {fs : Files} {path : String}
    {overrides : List (String × Value)} {failure : Failure} :
    configure reader fs path overrides = .error failure ∧ failure.isRejection = false ↔
      EscapesFile reader fs path overrides failure := by
  simp only [configure, build, List.any_eq_true, beq_iff_eq]
  constructor
  · rintro ⟨failed, escapes⟩
    cases loaded : load reader fs path with
    | error other =>
      rw [loaded] at failed
      cases failed
      exact .load (escapesLoad_iff.mp ⟨loaded, escapes⟩)
    | ok result =>
      simp only [loaded, bind, Except.bind] at failed
      split at failed
      · next reserved =>
        cases failed
        exact .name loaded reserved
      · next free => exact .entries loaded free (escapes_iff.mp ⟨failed, escapes⟩)
  · intro escapes
    cases escapes with
    | load escapes =>
      obtain ⟨failed, escapes⟩ := escapesLoad_iff.mpr escapes
      rw [failed]
      exact ⟨rfl, escapes⟩
    | name loaded reserved =>
      simp only [loaded, bind, Except.bind, if_pos reserved]
      exact ⟨trivial, rfl⟩
    | entries loaded free escapes =>
      obtain ⟨failed, escapes⟩ := escapes_iff.mpr escapes
      simp only [loaded, bind, Except.bind, if_neg free]
      exact ⟨failed, escapes⟩

/-- A configuration, whether it comes from a mapping or from a file with values over it, settles or is
rejected, but for exactly these: a key that is no text, a value that the check of its field cannot
handle, an override of a name that none can have, and a file whose path, bytes or scalars cannot be
used. What a file holds is left to its reader. -/
theorem settles_or_rejected_but_for_escapes (entries : Entries) (reader : Reader) (fs : Files)
    (path : String) (overrides : List (String × Value)) (failure : Failure) :
    (fromEntries entries = .error failure ∧ failure.isRejection = false ↔
      Escapes entries failure) ∧
    (configure reader fs path overrides = .error failure ∧ failure.isRejection = false ↔
      EscapesFile reader fs path overrides failure) :=
  ⟨escapes_iff, escapesFile_iff⟩

/-- Durations that are no numbers are compared with zero all the same. -/
theorem escapes_textual_duration :
    ∃ failure, failure.isRejection = false ∧
      fromEntries [(.text "target", .text "127.0.0.1:9000"), (.text "size", .int 9),
        (.text "rate", .int 0), (.text "port", .int 0),
        (.text "burst_duration_ms", .text "abc")] = .error failure :=
  ⟨.noOrder (.text "abc") .atMost, rfl, rfl⟩

end BurstLoad.Settings
