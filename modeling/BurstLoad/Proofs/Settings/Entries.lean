import BurstLoad.Proofs.Settings.Fields

/-! Mappings by what is looked up in them. To set a value changes what stands under its key and nothing
else, and each field of a draft holds what is looked up under the key of the field. -/

set_option autoImplicit false

namespace BurstLoad.Settings

section

variable {entries : Entries} {key : String} {v w : Value}

theorem lookup?_cons_text (k : String) (v : Value) (rest : Entries) (key : String) :
    lookup? ((.text k, v) :: rest) key = if k = key then some v else lookup? rest key := by
  by_cases same : k = key <;> simp [lookup?, same]

theorem lookup?_cons_other {k : Value} (other : ∀ t, k ≠ .text t) (v : Value) (rest : Entries)
    (key : String) : lookup? ((k, v) :: rest) key = lookup? rest key := by
  cases k with
  | text t => exact absurd rfl (other t)
  | _ => rfl

/-- Entry by entry, with a case for each kind of key: a text or any other. -/
@[elab_as_elim]
theorem entries_induction {motive : Entries → Prop} (nil : motive [])
    (text : ∀ k v rest, motive rest → motive ((.text k, v) :: rest))
    (other : ∀ key v rest, (∀ k, key ≠ .text k) → motive rest → motive ((key, v) :: rest))
    (entries : Entries) : motive entries := by
  induction entries with
  | nil => exact nil
  | cons entry rest ih =>
    obtain ⟨key, v⟩ := entry
    by_cases textual : ∃ k, key = .text k
    · obtain ⟨k, rfl⟩ := textual
      exact text k v rest ih
    · exact other key v rest (not_exists.mp textual) ih

theorem lookup?_append (first rest : Entries) (key : String) :
    lookup? (first ++ rest) key = (lookup? first key).or (lookup? rest key) := by
  rw [lookup?, lookup?, lookup?, List.find?_append]
  cases List.find? _ first <;> rfl

/-- An entry with another value, if its key is the given one. -/
def overwrite (key : String) (value : Value) : Value × Value → Value × Value
  | (.text k, v) => if k == key then (.text k, value) else (.text k, v)
  | entry => entry

theorem put_eq (entries : Entries) (key : String) (v : Value) :
    put entries key v =
      if (lookup? entries key).isSome then entries.map (overwrite key v)
      else entries ++ [(.text key, v)] :=
  rfl

theorem fst_overwrite (key : String) (v : Value) (entry : Value × Value) :
    (overwrite key v entry).1 = entry.1 := by
  unfold overwrite
  split
  · split <;> rfl
  · rfl

theorem overwrite_of_ne {key : String} {v name : Value} (other : name ≠ .text key) (value : Value) :
    overwrite key v (name, value) = (name, value) := by
  unfold overwrite
  split
  · next k u same =>
    cases same
    exact if_neg fun named => other (congrArg Value.text (eq_of_beq named))
  · rfl

theorem lookup?_map_overwrite (entries : Entries) (key : String) (v : Value) (k : String) :
    lookup? (entries.map (overwrite key v)) k =
      if k = key then (lookup? entries k).map fun _ => v else lookup? entries k := by
  induction entries using entries_induction with
  | nil => split <;> rfl
  | text t value rest ih =>
    have here : overwrite key v (.text t, value) = (.text t, if t = key then v else value) := by
      rw [overwrite]
      by_cases same : t = key <;> simp [same]
    rw [List.map_cons, here, lookup?_cons_text, lookup?_cons_text, ih]
    by_cases same : t = k
    · rw [if_pos same, if_pos same, same]
      split <;> rfl
    · rw [if_neg same, if_neg same]
  | other name value rest strange ih =>
    rw [List.map_cons, overwrite_of_ne (strange key), lookup?_cons_other strange,
      lookup?_cons_other strange, ih]

/-- What is looked up after a value was set. -/
theorem lookup?_put (entries : Entries) (key : String) (v : Value) (k : String) :
    lookup? (put entries key v) k = if k = key then some v else lookup? entries k := by
  rw [put_eq]
  split
  · next found =>
    rw [lookup?_map_overwrite]
    split
    · next same =>
      subst same
      obtain ⟨u, found⟩ := Option.isSome_iff_exists.mp found
      rw [found, Option.map_some]
    · rfl
  · next absent =>
    rw [Bool.not_eq_true, Option.isSome_eq_false_iff, Option.isNone_iff_eq_none] at absent
    rw [lookup?_append, lookup?_cons_text]
    by_cases same : k = key
    · subst same
      rw [absent, if_pos rfl, if_pos rfl]
      rfl
    · rw [if_neg (Ne.symm same), if_neg same]
      exact Option.or_none

theorem keys_put (entries : Entries) (key : String) (v : Value) :
    (put entries key v).map Prod.fst =
      if (lookup? entries key).isSome then entries.map Prod.fst
      else entries.map Prod.fst ++ [.text key] := by
  rw [put_eq]
  split
  · rw [List.map_map]
    exact List.map_congr_left fun entry _ => fst_overwrite key v entry
  · rw [List.map_append]
    rfl

theorem unknownKeys_put (entries : Entries) (key : String) (v w : Value) :
    unknownKeys (put entries key v) = unknownKeys (put entries key w) := by
  rw [unknownKeys, unknownKeys, keys_put, keys_put]

/-- Of what is looked up it matters only whether it is a value. -/
theorem missingKey?_congr {first second : Entries} (same : ∀ key,
      ((lookup? first key).getD .null).isNull = ((lookup? second key).getD .null).isNull) :
    missingKey? first = missingKey? second := by
  rw [missingKey?, missingKey?]
  congr 1
  exact funext same

theorem missingKey?_put (entries : Entries) (key : String) (same : v.isNull = w.isNull) :
    missingKey? (put entries key v) = missingKey? (put entries key w) := by
  refine missingKey?_congr fun k => ?_
  rw [lookup?_put, lookup?_put]
  split
  · exact same
  · rfl

/-- A mapping fails for its keys whatever value is set, or its draft is settled. -/
theorem fromEntries_put (entries : Entries) (key : String) :
    (∃ failure, ∀ v, v.isNull = false → fromEntries (put entries key v) = .error failure) ∨
      ∀ v, v.isNull = false → fromEntries (put entries key v) = settle (draftOf (put entries key v)) := by
  have same (v : Value) := unknownKeys_put entries key v (.int 0)
  have unknown (v : Value) :
      unknownKeys? (put entries key v) = unknownKeys? (put entries key (.int 0)) := by
    rw [unknownKeys?, same, unknownKeys?]
  have missing {v : Value} (present : v.isNull = false) :
      missingKey? (put entries key v) = missingKey? (put entries key (.int 0)) :=
    missingKey?_put entries key present
  cases keys : unknownKeys? (put entries key (.int 0)) with
  | none =>
    refine .inl ⟨.strangeKeys (unknownKeys (put entries key (.int 0))), fun v present => ?_⟩
    rw [fromEntries, draftFromEntries, unknown, keys, same]
    rfl
  | some more =>
    cases more with
    | cons k ks =>
      refine .inl ⟨.rejected (.unknownKeys (sortedKeys (k :: ks))), fun v present => ?_⟩
      rw [fromEntries, draftFromEntries, unknown, keys]
      rfl
    | nil =>
      cases required : missingKey? (put entries key (.int 0)) with
      | some k =>
        refine .inl ⟨.rejected (.missing k), fun v present => ?_⟩
        rw [fromEntries, draftFromEntries, unknown, keys]
        simp only [missing present, required]
        rfl
      | none =>
        refine .inr fun v present => ?_
        rw [fromEntries, draftFromEntries, unknown, keys]
        simp only [missing present, required]
        rfl

end

namespace Field

/-- What a field holds that is left out. -/
def absent : Field → Value
  | target | size | rate | port => .null
  | nodes => .list []
  | burstDuration => .int defaultBurstDuration
  | probeDelay => .int defaultProbeDelay
  | isLocal | honest => .bool false

theorem key_inj {f g : Field} (same : f.key = g.key) : f = g := by
  cases f <;> cases g <;> first | rfl | exact absurd same (by decide)

end Field

theorem get_draftOf (entries : Entries) (f : Field) :
    (draftOf entries).get f = (lookup? entries f.key).getD f.absent := by
  cases f <;> rfl

theorem get_draftOf_put (entries : Entries) (f : Field) (v : Value) (g : Field) :
    (draftOf (put entries f.key v)).get g = if g = f then v else (draftOf entries).get g := by
  rw [get_draftOf, get_draftOf, lookup?_put]
  by_cases same : g = f
  · rw [if_pos same, if_pos (congrArg Field.key same), Option.getD_some]
  · rw [if_neg same, if_neg fun keys => same (Field.key_inj keys)]

end BurstLoad.Settings
