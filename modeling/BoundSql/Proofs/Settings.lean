import BoundSql.Settings

/-!
# The page sizes that settings allow

A page size asked for as an integer, or not at all, is brought between one and the greatest size
that the settings allow. Settings are checked when they are made, so both of their sizes are at
least one.
-/

namespace BoundSql.Settings

/-- The page size used when an integer, or nothing, is asked for. -/
def clamped (s : Settings) (asked : Option Int) : Nat :=
  let size := match asked with
    | none => s.defaultPageSize
    | some n => (max 1 n).toNat
  match s.maxPageSize with
  | none => size
  | some greatest => min size greatest

/-- The greater of two integers, as a choice between numbers. -/
theorem ite_above_eq_max (n : Int) :
    (if (Number.int n).above 1 then Number.int n else .int 1) = .int (max 1 n) := by
  simp only [Number.above, decide_eq_true_eq]
  split <;> congr 1 <;> omega

/-- Bounding a size from above takes the smaller one. -/
theorem ite_above_eq_min (size greatest : Nat) :
    (if (Number.int size).above greatest then Number.int greatest else .int size) =
      .int ((min size greatest : Nat) : Int) := by
  simp only [Number.above, decide_eq_true_eq]
  split <;> congr 1 <;> omega

/-- A page size asked for as an integer, or not at all, is an integer. -/
theorem pageSize_eq (s : Settings) (asked : Option Int) :
    s.pageSize ((asked.map Value.int).getD .null) = .ok (.int (s.clamped asked)) := by
  have hasked : s.askedPageSize ((asked.map Value.int).getD .null) = .ok (.int ((match asked with
      | none => s.defaultPageSize
      | some n => (max 1 n).toNat : Nat) : Int)) := by
    cases asked with
    | none => rfl
    | some n =>
      have hmax : (((max 1 n).toNat : Nat) : Int) = max 1 n := by omega
      dsimp only
      rw [hmax, ← ite_above_eq_max]
      rfl
  unfold pageSize clamped
  rw [hasked]
  cases s.maxPageSize with
  | none => rfl
  | some greatest => exact congrArg Except.ok (ite_above_eq_min _ greatest)

/-- What holds of the standard of a field and of all it can read holds of the field. -/
theorem holds_readField {α : Type} {P : α → Prop} {given : Option Value} {standard a : α}
    {read : Value → Except Record.Fault α} (hstandard : P standard)
    (hread : ∀ v a, read v = .ok a → P a) (h : readField given standard read = .ok a) : P a := by
  cases given with
  | none =>
    cases h
    exact hstandard
  | some v => exact hread v a h

/-- A size that is given is positive. -/
theorem one_le_of_optionalSize {v : Value} {size : Option Nat} (h : optionalSize v = .ok size) :
    ∀ n, size = some n → 1 ≤ n := by
  rintro n rfl
  unfold optionalSize at h
  split at h
  · cases h
  · cases hpositive : Record.positive v with
    | error fault =>
      rw [hpositive] at h
      cases h
    | ok m =>
      rw [hpositive] at h
      cases h
      exact Record.one_le_of_positive hpositive

/-- The bounds of page sizes in checked settings are at least one. -/
theorem one_le_of_ofFields {fields : Entries String Value} {s : Settings}
    (h : ofFields fields = .ok s) :
    1 ≤ s.defaultPageSize ∧ ∀ greatest, s.maxPageSize = some greatest → 1 ≤ greatest := by
  unfold ofFields at h
  dsimp only at h
  split at h
  · rename_i target size greatest htarget hsize hgreatest hextra
    cases h
    refine ⟨holds_readField (P := (1 ≤ ·)) (by decide) (fun _ _ => Record.one_le_of_positive) hsize,
      ?_⟩
    exact holds_readField (P := fun size => ∀ n, size = some n → 1 ≤ n) (fun _ hn => by cases hn)
      (fun _ _ => one_le_of_optionalSize) hgreatest
  · cases h

/-- Checked settings allow page sizes from one to the greatest. -/
theorem clamped_bounds {fields : Entries String Value} {s : Settings}
    (h : ofFields fields = .ok s) (asked : Option Int) :
    1 ≤ s.clamped asked ∧
      ∀ greatest, s.maxPageSize = some greatest → s.clamped asked ≤ greatest := by
  obtain ⟨hdefault, hgreatest⟩ := one_le_of_ofFields h
  unfold clamped
  cases hmax : s.maxPageSize with
  | none =>
    refine ⟨?_, nofun⟩
    cases asked <;> dsimp only <;> omega
  | some greatest =>
    have hpositive := hgreatest greatest hmax
    refine ⟨?_, fun g hg => ?_⟩
    · cases asked <;> dsimp only <;> omega
    · cases hg
      exact Nat.min_le_right ..

end BoundSql.Settings
