import BurstLoad.Proofs.Numeral
import BurstLoad.Proofs.Settings.Again
import BurstLoad.Proofs.Settings.Entries

/-! Figures of a configuration: its size, its rate and its port. Each may be given as a number or as a
numeral, which is what a command line gives, and both have the same outcome, whatever else the mapping
holds. No other text is ever taken for a figure. -/

set_option autoImplicit false

namespace BurstLoad.Settings

theorem readInteger?_text (s : String) :
    readInteger? (.text s) = (Text.readNatural? s.toList).map Int.ofNat :=
  rfl

theorem readInteger?_numeral {s : String} {n : Nat} (numeral : Text.IsNumeral s.toList n) :
    readInteger? (.text s) = readInteger? (.int n) := by
  rw [readInteger?_text, Text.readNatural?_eq_some_iff.mpr numeral]
  rfl

theorem readInteger?_text_eq_none {s : String} (other : ¬∃ n, Text.IsNumeral s.toList n) :
    readInteger? (.text s) = none := by
  rw [readInteger?_text, Option.map_eq_none_iff, Option.eq_none_iff_forall_ne_some]
  exact fun n read => other ⟨n, Text.readNatural?_eq_some_iff.mp read⟩

/-- The fields that hold an integer. -/
inductive Figure where
  | size
  | rate
  | port
  deriving DecidableEq

namespace Figure

def field : Figure → Field
  | size => .size
  | rate => .rate
  | port => .port

/-- Why a value is refused that is no integer. -/
def rejection : Figure → Rejection
  | size => .sizeNotInteger
  | rate => .rate
  | port => .port

variable {figure : Figure} {v w : Value}

/-- Values that read as the same integer fail alike. -/
theorem settle_snd_congr (same : readInteger? v = readInteger? w) :
    (figure.field.settle v).2 = (figure.field.settle w).2 := by
  cases figure with
  | size | rate =>
    simp only [field, Field.settle, same]
    cases readInteger? w <;> rfl
  | port =>
    simp only [field, Field.settle, same]
    cases readInteger? w with
    | none => rfl
    | some n =>
      dsimp only
      split <;> rfl

/-- Unless they fail they also settle to the same integer. -/
theorem settle_congr_of_passed (same : readInteger? v = readInteger? w)
    (passed : (figure.field.settle w).2 = none) : figure.field.settle v = figure.field.settle w := by
  cases figure with
  | size | rate =>
    simp only [field, Field.settle, same] at passed ⊢
    cases read : readInteger? w with
    | none => simp [read] at passed
    | some n => rfl
  | port =>
    simp only [field, Field.settle, same] at passed ⊢
    cases read : readInteger? w with
    | none => simp [read] at passed
    | some n =>
      simp only [read] at passed ⊢
      split at passed
      · next inside => rw [if_pos inside, if_pos inside]
      · cases passed

/-- A value that is no integer is refused for that. -/
theorem settle_snd_of_none (none : readInteger? v = none) :
    (figure.field.settle v).2 = some (.rejected figure.rejection) := by
  cases figure <;> simp only [field, rejection, Field.settle, none]

end Figure

/-- Drafts that differ in one figure alone have the same settings, or the same failure, if what they hold
there reads as the same integer. -/
theorem settle_figure_congr {d e : Draft} {figure : Figure}
    (same : readInteger? (d.get figure.field) = readInteger? (e.get figure.field))
    (others : ∀ f, f ≠ figure.field → d.get f = e.get f) : settle d = settle e := by
  apply settle_congr
  · intro f
    by_cases here : f = figure.field
    · subst here
      exact Figure.settle_snd_congr same
    · rw [others f here]
  · intro f passed
    by_cases here : f = figure.field
    · subst here
      exact Figure.settle_congr_of_passed same passed
    · rw [others f here]

/-- A draft that holds no integer for a figure fails, and at this figure if another draft settles that
differs from it there alone. -/
theorem settle_figure_of_none {d : Draft} {figure : Figure}
    (none : readInteger? (d.get figure.field) = none) :
    (∃ failure, settle d = .error failure) ∧
      ∀ e s, settle e = .ok s → (∀ f, f ≠ figure.field → d.get f = e.get f) →
        settle d = .error (.rejected figure.rejection) := by
  have refused : (figure.field.settle (d.get figure.field)).2 = some (.rejected figure.rejection) :=
    Figure.settle_snd_of_none none
  cases outcome : settle d with
  | ok s =>
    have passed := Draft.settle_eq_none_iff.mp (settle_eq_ok_iff.mp outcome) figure.field
    rw [passed] at refused
    cases refused
  | error failure =>
    refine ⟨⟨failure, rfl⟩, fun e s settled others => ?_⟩
    rw [settle_eq_error_iff, Draft.settle_snd] at outcome
    obtain ⟨f, -, fails⟩ := List.exists_of_findSome?_eq_some outcome
    by_cases here : f = figure.field
    · subst here
      rw [refused, Option.some.injEq] at fails
      rw [fails]
    · rw [others f here, Draft.settle_eq_none_iff.mp (settle_eq_ok_iff.mp settled) f] at fails
      cases fails

variable {entries : Entries} {figure : Figure} {s : String}

/-- A numeral stands for its number, with the same settings or the same failure. -/
theorem fromEntries_put_numeral {n : Nat} (numeral : Text.IsNumeral s.toList n) :
    fromEntries (put entries figure.field.key (.text s)) =
      fromEntries (put entries figure.field.key (.int n)) := by
  obtain ⟨failure, fails⟩ | settles := fromEntries_put entries figure.field.key
  · rw [fails _ rfl, fails _ rfl]
  · rw [settles _ rfl, settles _ rfl]
    refine @settle_figure_congr _ _ figure ?_ ?_
    · rw [get_draftOf_put, get_draftOf_put, if_pos rfl, if_pos rfl, readInteger?_numeral numeral]
    · intro f other
      rw [get_draftOf_put, get_draftOf_put, if_neg other, if_neg other]

/-- Any other text is refused. -/
theorem fromEntries_put_other (other : ¬∃ n, Text.IsNumeral s.toList n) :
    (∃ failure, fromEntries (put entries figure.field.key (.text s)) = .error failure) ∧
      ∀ (m : Int) settings, fromEntries (put entries figure.field.key (.int m)) = .ok settings →
        fromEntries (put entries figure.field.key (.text s)) =
          .error (.rejected figure.rejection) := by
  obtain ⟨failure, fails⟩ | settles := fromEntries_put entries figure.field.key
  · refine ⟨⟨failure, fails _ rfl⟩, fun m settings accepted => ?_⟩
    rw [fails _ rfl] at accepted
    cases accepted
  · rw [settles _ rfl]
    have none : readInteger? ((draftOf (put entries figure.field.key (.text s))).get figure.field) =
        none := by
      rw [get_draftOf_put, if_pos rfl, readInteger?_text_eq_none other]
    obtain ⟨fails, alone⟩ := settle_figure_of_none none
    refine ⟨fails, fun m settings accepted => ?_⟩
    rw [settles _ rfl] at accepted
    apply alone _ settings accepted
    intro f beside
    rw [get_draftOf_put, get_draftOf_put, if_neg beside, if_neg beside]

/-- What a figure may be given as, whatever else a mapping holds. A numeral of any script gives what its
number gives: the same settings or the same failure. Any other text is refused, and for this figure if
the mapping is accepted with some number in its place. -/
theorem fromEntries_put_figure (entries : Entries) (figure : Figure) (s : String) :
    (∀ n : Nat, Text.IsNumeral s.toList n →
      fromEntries (put entries figure.field.key (.text s)) =
        fromEntries (put entries figure.field.key (.int n))) ∧
    ((¬∃ n, Text.IsNumeral s.toList n) →
      (∃ failure, fromEntries (put entries figure.field.key (.text s)) = .error failure) ∧
      ∀ (m : Int) settings, fromEntries (put entries figure.field.key (.int m)) = .ok settings →
        fromEntries (put entries figure.field.key (.text s)) =
          .error (.rejected figure.rejection)) :=
  ⟨fun _ => fromEntries_put_numeral, fromEntries_put_other⟩

/-- A mapping that lacks only its size. -/
def unsized : Entries :=
  [(.text "rate", .int 3), (.text "target", .text "127.0.0.1:80"), (.text "port", .text "\t0")]

theorem fromEntries_put_size :
    fromEntries (put unsized "size" (.text " +٠٥١٢\u2003")) = fromEntries (put unsized "size" (.int 512)) ∧
      fromEntries (put unsized "size" (.text "51²")) = .error (.rejected .sizeNotInteger) := by
  have numeral : Text.IsNumeral " +٠٥١٢\u2003".toList 512 := Text.readNatural?_eq_some_iff.mp rfl
  have other : ¬∃ n, Text.IsNumeral "51²".toList n := by
    rintro ⟨n, numeral⟩
    have read : none = some n := Text.readNatural?_eq_some_iff.mpr numeral
    cases read
  exact ⟨(fromEntries_put_figure unsized .size _).1 512 numeral,
    ((fromEntries_put_figure unsized .size _).2 other).2 512 _ rfl⟩

end BurstLoad.Settings
