import BurstLoad.Proofs.Settings.Refusals
import BurstLoad.Value.Key
import Mathlib.Data.List.Nodup

/-! What a configuration depends on that is read from a file and the values that override its entries:
for each key the override, unless it is null, and else the value of the file. Neither the order of
the entries matters nor what the file holds under a key that is overridden. Keys that are no texts
make every reading fail, over whatever keys are unknown. -/

set_option autoImplicit false

namespace BurstLoad.Settings

/-! The order of texts, in which unknown keys are shown. -/

theorem code_inj {a b : Char} (same : Text.code a = Text.code b) : a = b := by
  -- a stand-in has the code of a half, which no character has
  have noHalf (c : Char) : ¬ (0xD800 ≤ c.toNat ∧ c.toNat ≤ 0xDFFF) := by
    have valid := c.valid
    unfold UInt32.isValidChar Nat.isValidChar at valid
    unfold Char.toNat
    omega
  have first := noHalf a
  have second := noHalf b
  simp only [Text.code, Text.isStandIn, Text.standInShift, Bool.and_eq_true, decide_eq_true_eq] at same
  apply Char.toNat_inj.mp
  split at same <;> split at same <;> omega

theorem codes_inj {s t : String} (same : Text.codes s = Text.codes t) : s = t :=
  String.toList_inj.mp (List.map_injective_iff.mpr (fun _ _ => code_inj) same)

/-- Whether a text is shown before another, or is the same. -/
def isAhead (s t : String) : Bool :=
  !List.lex (Text.codes t) (Text.codes s) fun m n => m < n

theorem isAhead_trans {r s t : String} (first : isAhead r s = true) (second : isAhead s t = true) :
    isAhead r t = true := by
  rw [isAhead, Bool.not_eq_true', List.lex_eq_false_iff_ge] at first second ⊢
  exact List.le_trans first second

theorem isAhead_total (s t : String) : (isAhead s t || isAhead t s) = true := by
  rw [Bool.or_eq_true, isAhead, isAhead, Bool.not_eq_true', Bool.not_eq_true',
    List.lex_eq_false_iff_ge, List.lex_eq_false_iff_ge]
  exact List.le_total _ _

theorem isAhead_antisymm {s t : String} (first : isAhead s t = true)
    (second : isAhead t s = true) : s = t := by
  rw [isAhead, Bool.not_eq_true', List.lex_eq_false_iff_ge] at first second
  exact codes_inj (List.le_antisymm first second)

theorem sortedKeys_eq (keys : List String) : sortedKeys keys = keys.mergeSort isAhead :=
  rfl

theorem pairwise_sortedKeys (keys : List String) :
    (sortedKeys keys).Pairwise fun s t => isAhead s t = true := by
  rw [sortedKeys_eq]
  refine List.pairwise_mergeSort ?_ ?_ keys
  · exact fun _ _ _ => isAhead_trans
  · exact isAhead_total

theorem perm_sortedKeys (keys : List String) : (sortedKeys keys).Perm keys := by
  rw [sortedKeys_eq]
  exact List.mergeSort_perm keys isAhead

/-- Keys are shown in one and the same order, in whatever order they come. -/
theorem sortedKeys_eq_of_perm {keys others : List String} (perm : keys.Perm others) :
    sortedKeys keys = sortedKeys others :=
  List.Perm.eq_of_pairwise (fun _ _ _ _ => isAhead_antisymm) (pairwise_sortedKeys keys)
    (pairwise_sortedKeys others)
    ((perm_sortedKeys keys).trans (perm.trans (perm_sortedKeys others).symm))

/-! Textual keys, and what stands under them. -/

/-- The keys of a mapping that are texts. -/
def names (entries : Entries) : List String :=
  (entries.map Prod.fst).filterMap name?

theorem names_cons_text (k : String) (v : Value) (rest : Entries) :
    names ((.text k, v) :: rest) = k :: names rest :=
  rfl

theorem names_cons_other {key : Value} (other : ∀ k, key ≠ .text k) (v : Value) (rest : Entries) :
    names ((key, v) :: rest) = names rest := by
  cases key with
  | text k => exact absurd rfl (other k)
  | _ => rfl

theorem mem_names {entries : Entries} {name : String} :
    name ∈ names entries ↔ ∃ v, (.text name, v) ∈ entries := by
  induction entries using entries_induction with
  | nil => simp [names]
  | text k v rest ih =>
    rw [names_cons_text, List.mem_cons, ih]
    simp [exists_or]
  | other key v rest strange ih =>
    rw [names_cons_other strange, ih]
    simp [Ne.symm (strange name)]

/-- With each textual key only once, what is looked up is what stands under the key. -/
theorem lookup?_eq_some_iff {entries : Entries} (distinct : (names entries).Nodup) {name : String}
    {v : Value} : lookup? entries name = some v ↔ (.text name, v) ∈ entries := by
  induction entries using entries_induction with
  | nil => simp [lookup?]
  | text k w rest ih =>
    rw [names_cons_text, List.nodup_cons, mem_names] at distinct
    obtain ⟨fresh, distinct⟩ := distinct
    rw [lookup?_cons_text, List.mem_cons]
    split
    · next same =>
      subst same
      have absent : (.text k, v) ∉ rest := fun there => fresh ⟨v, there⟩
      simp [absent, eq_comm]
    · next different => simp [ih distinct, Ne.symm different]
  | other key w rest strange ih =>
    rw [names_cons_other strange] at distinct
    rw [lookup?_cons_other strange, ih distinct]
    simp [Ne.symm (strange name)]

theorem mem_names_iff_lookup? {entries : Entries} (distinct : (names entries).Nodup)
    {name : String} : name ∈ names entries ↔ (lookup? entries name).isSome := by
  rw [mem_names, Option.isSome_iff_exists]
  exact exists_congr fun v => (lookup?_eq_some_iff distinct).symm

theorem names_put (entries : Entries) (key : String) (v : Value) :
    names (put entries key v) =
      if (lookup? entries key).isSome then names entries else names entries ++ [key] := by
  rw [names, keys_put]
  split
  · rfl
  · exact List.filterMap_append

theorem nodup_names_put {entries : Entries} (distinct : (names entries).Nodup) (key : String)
    (v : Value) : (names (put entries key v)).Nodup := by
  rw [names_put]
  split
  · exact distinct
  · next absent =>
    rw [← mem_names_iff_lookup? distinct] at absent
    exact List.nodup_append_comm.mpr (List.nodup_cons.mpr ⟨absent, distinct⟩)

theorem hasStrangeKey_iff {entries : Entries} :
    HasStrangeKey entries ↔ ∃ key ∈ entries.map Prod.fst, ∀ k, key ≠ .text k := by
  simp [HasStrangeKey]

theorem hasStrangeKey_put {entries : Entries} {key : String} {v : Value} :
    HasStrangeKey (put entries key v) ↔ HasStrangeKey entries := by
  rw [hasStrangeKey_iff, hasStrangeKey_iff, keys_put]
  split
  · rfl
  · simp [List.mem_append, or_and_right, exists_or]

/-! Overrides laid over entries. -/

variable {entries : Entries} {overrides : List (String × Value)}

theorem overlay_cons (entries : Entries) (name : String) (v : Value)
    (overrides : List (String × Value)) :
    overlay entries ((name, v) :: overrides) =
      overlay (if v.isNull then entries else put entries name v) overrides :=
  rfl

/-- What holds however a value is set holds once the overrides are laid over the entries. -/
theorem overlay_induction {motive : Entries → Prop}
    (put : ∀ entries key v, motive entries → motive (put entries key v)) (start : motive entries) :
    motive (overlay entries overrides) := by
  induction overrides generalizing entries with
  | nil => exact start
  | cons override rest ih =>
    rw [overlay_cons]
    split
    · exact ih start
    · exact ih (put _ _ _ start)

theorem nodup_names_overlay (distinct : (names entries).Nodup)
    (overrides : List (String × Value)) : (names (overlay entries overrides)).Nodup :=
  overlay_induction (motive := fun laid => (names laid).Nodup)
    (fun _ key v distinct => nodup_names_put distinct key v) distinct

theorem hasStrangeKey_overlay :
    HasStrangeKey (overlay entries overrides) ↔ HasStrangeKey entries :=
  overlay_induction (motive := fun laid => HasStrangeKey laid ↔ HasStrangeKey entries)
    (fun _ _ _ => hasStrangeKey_put.trans) Iff.rfl

/-- An override that is null leaves the entry of the file, and any other takes its place. -/
theorem lookup?_overlay_iff (named : (overrides.map Prod.fst).Nodup) {name : String} {v : Value} :
    lookup? (overlay entries overrides) name = some v ↔
      (name, v) ∈ overrides ∧ v.isNull = false ∨
        (∀ w, (name, w) ∈ overrides → w.isNull = true) ∧ lookup? entries name = some v := by
  induction overrides generalizing entries with
  | nil => simp [overlay]
  | cons override rest ih =>
    obtain ⟨key, u⟩ := override
    rw [List.map_cons, List.nodup_cons, List.mem_map] at named
    obtain ⟨fresh, named⟩ := named
    rw [overlay_cons, ih named]
    by_cases same : name = key
    · subst same
      -- the name is overridden here and nowhere later
      have absent (w : Value) : (name, w) ∉ rest := fun there => fresh ⟨(name, w), there, rfl⟩
      cases null : u.isNull with
      | true =>
        have unset : ¬ (v = u ∧ v.isNull = false) := by
          rintro ⟨rfl, given⟩
          rw [null] at given
          cases given
        simp [absent, null, unset]
      | false =>
        have given : v = u ∧ v.isNull = false ↔ u = v := by
          refine ⟨fun same => same.1.symm, ?_⟩
          rintro rfl
          exact ⟨rfl, null⟩
        simp [absent, null, given, lookup?_put]
    · cases null : u.isNull with
      | true => simp [same]
      | false => simp [same, lookup?_put]

/-! What is made of a mapping. -/

theorem unknownKeys?_eq_some {entries : Entries} (plain : ¬ HasStrangeKey entries) :
    unknownKeys? entries =
      some ((names entries).filter fun k => !(requiredKeys ++ optionalKeys).contains k) := by
  induction entries using entries_induction with
  | nil => rfl
  | text k v rest ih =>
    have plain : ¬ HasStrangeKey rest := fun ⟨entry, there, strange⟩ =>
      plain ⟨entry, List.mem_cons_of_mem _ there, strange⟩
    rw [unknownKeys?_cons_text, ih plain, names_cons_text, List.filter_cons, Option.map_some]
    generalize (requiredKeys ++ optionalKeys).contains k = known
    cases known <;> rfl
  | other key v rest strange _ => exact absurd ⟨(key, v), List.mem_cons_self, strange⟩ plain

/-! Effective values. -/

/-- A value stands under a key, or under one that is the same. -/
def Stores (entries : Entries) (key v : Value) : Prop :=
  ∃ k, (k = key ∨ k.sameKey key = true) ∧ (k, v) ∈ entries

/-- The value of a key when the entries of a file are overridden. -/
inductive IsEffective (entries : Entries) (overrides : List (String × Value)) :
    Value → Value → Prop where
  -- overrides have names only, so that other keys are never overridden
  | override {name : String} {v : Value} (given : (name, v) ∈ overrides)
      (present : v.isNull = false) : IsEffective entries overrides (.text name) v
  | file {key v : Value}
      (free : ∀ name w, key = .text name → (name, w) ∈ overrides → w.isNull = true)
      (stored : Stores entries key v) : IsEffective entries overrides key v

theorem sameKey_text_iff {key : Value} {name : String} :
    key.sameKey (.text name) = true ↔ key = .text name := by
  cases key with
  | text s => simp [Value.sameKey, Value.whole?]
  | float x =>
    unfold Value.sameKey
    cases (Value.float x).whole? <;> simp [Value.whole?]
  | _ => simp [Value.sameKey, Value.whole?]

theorem text_sameKey_iff {key : Value} {name : String} :
    (Value.text name).sameKey key = true ↔ key = .text name := by
  cases key with
  | text s => simpa [Value.sameKey, Value.whole?] using eq_comm
  | float x =>
    unfold Value.sameKey
    cases (Value.float x).whole? <;> simp [Value.whole?]
  | _ => simp [Value.sameKey, Value.whole?]

theorem stores_text_iff {name : String} {v : Value} :
    Stores entries (.text name) v ↔ (.text name, v) ∈ entries := by
  constructor
  · rintro ⟨k, rfl | same, there⟩
    · exact there
    · rw [← sameKey_text_iff.mp same]
      exact there
  · exact fun there => ⟨_, .inl rfl, there⟩

theorem isEffective_nil_iff {key v : Value} : IsEffective entries [] key v ↔ Stores entries key v := by
  refine ⟨fun effective => ?_, .file nofun⟩
  cases effective with
  | override given => cases given
  | file _ stored => exact stored

theorem stores_single_iff {k u key v : Value} :
    Stores [(k, u)] key v ↔ v = u ∧ (k = key ∨ k.sameKey key = true) := by
  constructor
  · rintro ⟨_, same, there⟩
    cases List.mem_singleton.mp there
    exact ⟨rfl, same⟩
  · rintro ⟨rfl, same⟩
    exact ⟨k, same, List.mem_singleton_self _⟩

/-- What is looked up once the overrides are laid over the entries is the effective value. -/
theorem isEffective_text_iff (distinct : (names entries).Nodup)
    (named : (overrides.map Prod.fst).Nodup) {name : String} {v : Value} :
    IsEffective entries overrides (.text name) v ↔
      lookup? (overlay entries overrides) name = some v := by
  rw [lookup?_overlay_iff named, lookup?_eq_some_iff distinct]
  constructor
  · intro effective
    cases effective with
    | override given present => exact .inl ⟨given, present⟩
    | file free stored => exact .inr ⟨fun w => free name w rfl, stores_text_iff.mp stored⟩
  · rintro (⟨given, present⟩ | ⟨free, there⟩)
    · exact .override given present
    · refine .file ?_ (stores_text_iff.mpr there)
      rintro _ w ⟨⟩
      exact free w

theorem strange_of_same {k key : Value} (strange : ∀ name, key ≠ .text name)
    (same : k = key ∨ k.sameKey key = true) : ∀ name, k ≠ .text name := by
  rintro name rfl
  obtain rfl | same := same
  · exact strange name rfl
  · exact strange name (text_sameKey_iff.mp same)

/-- A key that is no text cannot be overridden. -/
theorem isEffective_iff_stores {key v : Value} (strange : ∀ name, key ≠ .text name) :
    IsEffective entries overrides key v ↔ Stores entries key v := by
  refine ⟨fun effective => ?_, .file fun name _ same => absurd same (strange name)⟩
  cases effective with
  | override => exact absurd rfl (strange _)
  | file _ stored => exact stored

theorem hasStrangeKey_iff_stores {entries : Entries} :
    HasStrangeKey entries ↔ ∃ key v, (∀ name, key ≠ .text name) ∧ Stores entries key v := by
  constructor
  · rintro ⟨⟨key, v⟩, there, strange⟩
    exact ⟨key, v, strange, key, .inl rfl, there⟩
  · rintro ⟨key, v, strange, k, same, there⟩
    exact ⟨(k, v), there, strange_of_same strange same⟩

/-- To set a value concerns only its key. -/
theorem mem_put_of_ne {key : Value} {name : String} (other : key ≠ .text name) {v w : Value} :
    (key, v) ∈ put entries name w ↔ (key, v) ∈ entries := by
  have kept {k u : Value} (same : overwrite name w (k, u) = (key, v)) : (k, u) = (key, v) := by
    have key' : k = key := (fst_overwrite name w (k, u)).symm.trans (congrArg Prod.fst same)
    subst key'
    rwa [overwrite_of_ne other] at same
  rw [put_eq]
  split
  · rw [List.mem_map]
    constructor
    · rintro ⟨⟨k, u⟩, there, same⟩
      rw [← kept same]
      exact there
    · exact fun there => ⟨(key, v), there, overwrite_of_ne other v⟩
  · simp [other]

theorem mem_overlay_of_strange {key : Value} (strange : ∀ k, key ≠ .text k) {v : Value} :
    (key, v) ∈ overlay entries overrides ↔ (key, v) ∈ entries :=
  overlay_induction (motive := fun laid => (key, v) ∈ laid ↔ (key, v) ∈ entries)
    (fun _ name _ => (mem_put_of_ne (strange name)).trans) Iff.rfl

/-- The overrides laid over the entries give a mapping that holds the effective values. -/
theorem stores_overlay_iff (distinct : (names entries).Nodup)
    (named : (overrides.map Prod.fst).Nodup) {key v : Value} :
    Stores (overlay entries overrides) key v ↔ IsEffective entries overrides key v := by
  by_cases textual : ∃ name, key = .text name
  · obtain ⟨name, rfl⟩ := textual
    rw [isEffective_text_iff distinct named, stores_text_iff,
      lookup?_eq_some_iff (nodup_names_overlay distinct overrides)]
  · have strange := not_exists.mp textual
    rw [isEffective_iff_stores strange]
    refine exists_congr fun k => and_congr_right fun same => ?_
    exact mem_overlay_of_strange (strange_of_same strange same)

/-! What calls with the same effective values come to. -/

/-- Rows of the same keys, in whatever order, and however a number is written in them. -/
def HoldSameKeys (keys others : List Value) : Prop :=
  (∀ key ∈ keys, ∃ k ∈ others, k = key ∨ k.sameKey key = true) ∧
    ∀ key ∈ others, ∃ k ∈ keys, k = key ∨ k.sameKey key = true

/-- Two readings come to one result, or, if there are keys that are no texts, to failures over the same
keys. -/
inductive Agree (strange : Prop) : Except Failure Settings → Except Failure Settings → Prop where
  | same {result : Except Failure Settings} (textual : ¬ strange) : Agree strange result result
  | overKeys {keys others : List Value} (odd : strange) (held : HoldSameKeys keys others) :
      Agree strange (.error (.strangeKeys keys)) (.error (.strangeKeys others))

theorem Agree.eq {strange : Prop} {first second : Except Failure Settings}
    (agree : Agree strange first second) (textual : ¬ strange) : first = second := by
  cases agree with
  | same => rfl
  | overKeys odd => exact absurd odd textual

theorem mem_unknownKeys {key : Value} :
    key ∈ unknownKeys entries ↔ (∃ v, (key, v) ∈ entries) ∧ isKnownKey key = false := by
  simp [unknownKeys]

theorem isKnownKey_of_same {k key : Value} (same : k = key ∨ k.sameKey key = true) :
    isKnownKey k = isKnownKey key := by
  obtain rfl | same := same
  · rfl
  · by_cases textual : ∃ name, key = .text name
    · obtain ⟨name, rfl⟩ := textual
      rw [sameKey_text_iff.mp same]
    · have strange := not_exists.mp textual
      rw [isKnownKey, isKnownKey, name?_eq_none strange,
        name?_eq_none (strange_of_same strange (.inr same))]

theorem exists_unknownKey_of_stores {first second : Entries}
    (same : ∀ key v, Stores first key v → Stores second key v) {key : Value}
    (unknown : key ∈ unknownKeys first) : ∃ k ∈ unknownKeys second, k = key ∨ k.sameKey key = true := by
  obtain ⟨⟨v, there⟩, strange⟩ := mem_unknownKeys.mp unknown
  obtain ⟨k, alike, there⟩ := same key v ⟨key, .inl rfl, there⟩
  exact ⟨k, mem_unknownKeys.mpr ⟨⟨v, there⟩, (isKnownKey_of_same alike).trans strange⟩, alike⟩

theorem fromEntries_of_strange (strange : HasStrangeKey entries) :
    fromEntries entries = .error (.strangeKeys (unknownKeys entries)) := by
  rw [fromEntries, draftFromEntries, unknownKeys?_eq_none_iff.mpr strange]
  rfl

/-- Mappings of texts in which the same is looked up under every key give the same configuration or
fail alike. -/
theorem fromEntries_congr {first second : Entries} (distinct : (names first).Nodup)
    (distinct' : (names second).Nodup) (same : ∀ name, lookup? first name = lookup? second name)
    (textual : ¬ HasStrangeKey first) (textual' : ¬ HasStrangeKey second) :
    fromEntries first = fromEntries second := by
  have missing : missingKey? first = missingKey? second :=
    missingKey?_congr fun key => by rw [same]
  have drafts : draftOf first = draftOf second := by simp only [draftOf, same]
  suffices draftFromEntries first = draftFromEntries second by rw [fromEntries, this, fromEntries]
  rw [draftFromEntries, draftFromEntries, missing, drafts, unknownKeys?_eq_some textual,
    unknownKeys?_eq_some textual']
  have perm : (names first).Perm (names second) :=
    (List.perm_ext_iff_of_nodup distinct distinct').mpr fun name => by
      rw [mem_names_iff_lookup? distinct, mem_names_iff_lookup? distinct', same]
  -- the unknown keys are the same but for their order, which sorting does away with
  have unknown := perm.filter fun k => !(requiredKeys ++ optionalKeys).contains k
  revert unknown
  generalize (names first).filter _ = keys, (names second).filter _ = keys'
  intro unknown
  cases keys with
  | nil =>
    cases unknown.nil_eq
    rfl
  | cons k ks =>
    cases keys' with
    | nil => exact absurd unknown.eq_nil (List.cons_ne_nil k ks)
    | cons k' ks' => simp only [sortedKeys_eq_of_perm unknown]

/-- Mappings that hold the same agree in what is read from them. -/
theorem agree_fromEntries {first second : Entries} (distinct : (names first).Nodup)
    (distinct' : (names second).Nodup) (same : ∀ key v, Stores first key v ↔ Stores second key v) :
    Agree (HasStrangeKey first) (fromEntries first) (fromEntries second) := by
  have both : HasStrangeKey first ↔ HasStrangeKey second := by
    simp only [hasStrangeKey_iff_stores, same]
  by_cases strange : HasStrangeKey first
  · rw [fromEntries_of_strange strange, fromEntries_of_strange (both.mp strange)]
    exact .overKeys strange
      ⟨fun _ => exists_unknownKey_of_stores fun key v => (same key v).mp,
        fun _ => exists_unknownKey_of_stores fun key v => (same key v).mpr⟩
  · have lookups (name : String) : lookup? first name = lookup? second name := Option.ext fun v => by
      rw [lookup?_eq_some_iff distinct, lookup?_eq_some_iff distinct', ← stores_text_iff,
        ← stores_text_iff, same]
    rw [fromEntries_congr distinct distinct' lookups strange (mt both.mpr strange)]
    exact .same strange

/-- A mapping and overrides as they can be given: no textual key stands twice in either, and none of
the overrides has the name under which the mapping is handed over. -/
structure IsCall (entries : Entries) (overrides : List (String × Value)) : Prop where
  distinct : (names entries).Nodup
  named : (overrides.map Prod.fst).Nodup
  free : fileName ∉ overrides.map Prod.fst

theorem IsCall.overlay (call : IsCall entries overrides) : IsCall (overlay entries overrides) [] :=
  ⟨nodup_names_overlay call.distinct overrides, List.nodup_nil, List.not_mem_nil⟩

theorem IsCall.perm {entries' : Entries} {overrides' : List (String × Value)}
    (call : IsCall entries overrides) (perm : entries.Perm entries')
    (perm' : overrides.Perm overrides') : IsCall entries' overrides' where
  distinct := ((perm.map Prod.fst).filterMap name?).nodup_iff.mp call.distinct
  named := (perm'.map Prod.fst).nodup_iff.mp call.named
  free := fun there => call.free ((perm'.map Prod.fst).mem_iff.mpr there)

theorem IsCall.put (call : IsCall entries overrides) (name : String) (v : Value) :
    IsCall (put entries name v) overrides :=
  ⟨nodup_names_put call.distinct name v, call.named, call.free⟩

theorem build_of_call (call : IsCall entries overrides) :
    build entries overrides = fromEntries (overlay entries overrides) := by
  refine if_neg fun reserved => call.free ?_
  obtain ⟨override, there, named⟩ := List.any_eq_true.mp reserved
  exact List.mem_map.mpr ⟨override, there, eq_of_beq named⟩

/-- Calls with the same effective values agree. -/
theorem agree_build {entries' : Entries} {overrides' : List (String × Value)}
    (call : IsCall entries overrides) (call' : IsCall entries' overrides')
    (same : ∀ key v, IsEffective entries overrides key v ↔ IsEffective entries' overrides' key v) :
    Agree (HasStrangeKey entries) (build entries overrides) (build entries' overrides') := by
  have laid := agree_fromEntries (nodup_names_overlay call.distinct overrides)
    (nodup_names_overlay call'.distinct overrides') fun key v => by
      rw [stores_overlay_iff call.distinct call.named, stores_overlay_iff call'.distinct call'.named,
        same]
  rwa [hasStrangeKey_overlay, ← build_of_call call, ← build_of_call call'] at laid

theorem isEffective_perm {entries' : Entries} {overrides' : List (String × Value)}
    (perm : entries.Perm entries') (perm' : overrides.Perm overrides') {key v : Value}
    (effective : IsEffective entries overrides key v) : IsEffective entries' overrides' key v := by
  cases effective with
  | override given present => exact .override (perm'.mem_iff.mp given) present
  | file free stored =>
    obtain ⟨k, same, there⟩ := stored
    exact .file (fun name w named given => free name w named (perm'.mem_iff.mpr given))
      ⟨k, same, perm.mem_iff.mp there⟩

/-- What stands under a name that is overridden is not effective. -/
theorem isEffective_put_iff {name : String} {v w : Value} (given : (name, w) ∈ overrides)
    (present : w.isNull = false) {key u : Value} :
    IsEffective (put entries name v) overrides key u ↔ IsEffective entries overrides key u := by
  have elsewhere {k : Value} (free : ∀ n x, key = .text n → (n, x) ∈ overrides → x.isNull = true)
      (same : k = key ∨ k.sameKey key = true) : k ≠ .text name := by
    rintro rfl
    have named : key = .text name := same.elim Eq.symm text_sameKey_iff.mp
    rw [free name w named given] at present
    cases present
  constructor
  all_goals
    intro effective
    cases effective with
    | override given present => exact .override given present
    | file free stored =>
      obtain ⟨k, same, there⟩ := stored
      refine .file free ⟨k, same, ?_⟩
      first
      | exact (mem_put_of_ne (elsewhere free same)).mp there
      | exact (mem_put_of_ne (elsewhere free same)).mpr there

/-- What a configuration depends on: the effective values of all keys. If all keys are texts the result
is the same down to the message of a failure. -/
structure DependsOnEffect (entries : Entries) (overrides : List (String × Value)) : Prop where
  effect : ∀ entries' overrides', IsCall entries' overrides' →
    (∀ key v, IsEffective entries overrides key v ↔ IsEffective entries' overrides' key v) →
    Agree (HasStrangeKey entries) (build entries overrides) (build entries' overrides')
  order : ∀ entries' overrides', entries.Perm entries' → overrides.Perm overrides' →
    Agree (HasStrangeKey entries) (build entries overrides) (build entries' overrides')
  -- what the file holds under a key that is overridden, or that it holds anything there
  shadowed : ∀ name v w, (name, w) ∈ overrides → w.isNull = false →
    Agree (HasStrangeKey entries) (build entries overrides) (build (put entries name v) overrides)
  null : ∀ name, name ≠ fileName →
    build entries ((name, .null) :: overrides) = build entries overrides

/-- A configuration depends on the effective values alone. -/
theorem dependsOnEffect_of_call (call : IsCall entries overrides) :
    DependsOnEffect entries overrides where
  effect _ _ call' same := agree_build call call' same
  order _ _ perm perm' := agree_build call (call.perm perm perm') fun _ _ =>
    ⟨isEffective_perm perm perm', isEffective_perm perm.symm perm'.symm⟩
  shadowed name v _ given present := agree_build call (call.put name v) fun _ _ =>
    (isEffective_put_iff given present).symm
  null name other := by
    simp only [build, List.any_cons, beq_eq_false_iff_ne.mpr other, Bool.false_or]
    rfl

/-- An empty list in the place of a size, which is overridden, and a rate that is not given after all. -/
theorem dependsOnEffect_misplaced_list :
    let entries : Entries := [(.text "size", .list []), (.text "zeta", .int 1)]
    let overrides : List (String × Value) := [("rate", .null), ("size", .int 9)]
    IsCall entries overrides ∧ DependsOnEffect entries overrides ∧
      build entries overrides = build [(.text "zeta", .int 1), (.text "size", .int 9)] [] := by
  intro entries overrides
  have call : IsCall entries overrides := ⟨by decide, by decide, by decide⟩
  have laid : IsCall [(.text "zeta", .int 1), (.text "size", .int 9)] [] :=
    call.overlay.perm (.swap _ _ _) .nil
  have textual : ¬ HasStrangeKey entries := by simp [HasStrangeKey, entries]
  refine ⟨call, dependsOnEffect_of_call call, ?_⟩
  refine ((dependsOnEffect_of_call call).effect _ _ laid fun key v => ?_).eq textual
  rw [← stores_overlay_iff call.distinct call.named, ← isEffective_nil_iff]
  exact ⟨isEffective_perm (.swap _ _ _) .nil, isEffective_perm (.swap _ _ _) .nil⟩

/-- The settings that are required. -/
def bare : Entries := [(.text "target", .text "127.0.0.1:9000"), (.text "size", .int 9),
  (.text "rate", .int 0), (.text "port", .int 0)]

/-- An override of the name under which the entries are handed over fails as no entry of that name does,
and of keys that are the same the failure shows the types. -/
theorem build_ne_of_isEffective :
    let override : List (String × Value) := [(fileName, .mapping [])]
    let given : Entries := bare ++ [(.text fileName, .mapping [])]
    (∀ key v, IsEffective bare override key v ↔ IsEffective given [] key v) ∧
      build bare override = .error (.nameTaken fileName) ∧
      build given [] = .error (.rejected (.unknownKeys [fileName])) ∧
      (∀ key v, IsEffective [(.int 1, .null)] [] key v ↔ IsEffective [(.bool true, .null)] [] key v) ∧
      build [(.int 1, .null)] [] = .error (.strangeKeys [.int 1]) ∧
      build [(.bool true, .null)] [] = .error (.strangeKeys [.bool true]) ∧
      (Failure.strangeKeys [.int 1]).message? ≠ (Failure.strangeKeys [.bool true]).message? := by
  intro override given
  have sorted : sortedKeys [fileName] = [fileName] := List.mergeSort_singleton fileName
  refine ⟨fun key v => ?_, rfl, ?_, fun key v => ?_, rfl, rfl, by decide⟩
  · rw [← stores_overlay_iff (by decide) (by decide), isEffective_nil_iff]
    rfl
  · conv_rhs => rw [← sorted]
    rfl
  · rw [isEffective_nil_iff, isEffective_nil_iff, stores_single_iff, stores_single_iff]
    -- one and true are the same key, whatever it is compared with
    refine and_congr_right fun _ => ⟨?_, ?_⟩
    all_goals
      rintro (rfl | alike)
      · exact .inr rfl
      · exact .inr alike

end BurstLoad.Settings
