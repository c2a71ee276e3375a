import BoundSql.Attempt

/-!
# What attempts fail with

An attempt fails with some failures only, or it always fails with one of them, or it is known from
no state but from the failures alone whether and with what it fails. Each is known of a sequence
from its halves.
-/

namespace BoundSql.Attempt

variable {σ τ α β : Type} {P : Failure → Prop}

/-- Whenever the attempt fails, it fails with one of some failures. -/
def FailsOnly (P : Failure → Prop) (act : Attempt σ α) : Prop :=
  ∀ s failure, (act.run s).1 = .error failure → P failure

/-- The attempt always fails, and with one of some failures. -/
def Fails (P : Failure → Prop) (act : Attempt σ α) : Prop :=
  ∀ s, ∃ failure, (act.run s).1 = .error failure ∧ P failure

/-- The attempt fails with just these failures, from every state; where there is none it answers. -/
def FailsExactly (P : Failure → Prop) (act : Attempt σ α) : Prop :=
  ∀ s failure, (act.run s).1 = .error failure ↔ P failure

/-- No failure at all. -/
abbrev Never : Failure → Prop := fun _ => False

/-- The failures of the first kind, or those of the second where there is none of the first. -/
def FirstOf (P Q : Failure → Prop) (failure : Failure) : Prop :=
  P failure ∨ (∀ other, ¬P other) ∧ Q failure

namespace FailsOnly

protected theorem pure (a : α) : FailsOnly P (Pure.pure a : Attempt σ α) := by
  intro s failure h
  cases h

protected theorem fail {failure : Failure} (h : P failure) :
    FailsOnly P (Attempt.fail failure : Attempt σ α) := by
  intro s failure' hrun
  cases hrun
  exact h

protected theorem state : FailsOnly P (Attempt.state : Attempt σ σ) := fun _ _ h => nomatch h

protected theorem update (f : σ → σ) : FailsOnly P (Attempt.update f) := fun _ _ h => nomatch h

/-- On a part of the state an attempt fails as it does on the part. -/
protected theorem within {act : Attempt τ α} (h : FailsOnly P act) (part : Part σ τ) :
    FailsOnly P (act.within part) :=
  fun s failure hrun => h (part.get s) failure hrun

protected theorem ofExcept {e : Except Failure α} (h : ∀ failure, e = .error failure → P failure) :
    FailsOnly P (Attempt.ofExcept e : Attempt σ α) := by
  cases e with
  | ok a => exact .pure a
  | error failure => exact .fail (h failure rfl)

/-- A sequence fails with what one of its halves fails with. -/
protected theorem bind {act : Attempt σ α} {next : α → Attempt σ β} (h : FailsOnly P act)
    (hn : ∀ a, FailsOnly P (next a)) : FailsOnly P (act >>= next) := by
  intro s failure hrun
  have hfirst := h s
  rw [run_bind] at hrun
  rcases hact : act.run s with ⟨outcome, t⟩
  rw [hact] at hrun hfirst
  cases outcome with
  | ok a => exact hn a t failure hrun
  | error other =>
    cases hrun
    exact hfirst failure rfl

/-- What looks at an outcome may fail with the failure it finds there. -/
theorem outcome_bind {act : Attempt σ α} {next : Except Failure α → Attempt σ β}
    (h : FailsOnly P act)
    (hn : ∀ outcome, (∀ failure, outcome = .error failure → P failure) →
      FailsOnly P (next outcome)) : FailsOnly P (act.outcome >>= next) := by
  intro s failure hrun
  rw [run_bind, run_outcome] at hrun
  exact hn _ (h s) _ failure hrun

/-- Attempts for the items of a list fail with what one of them fails with. -/
protected theorem forAll {items : List α} {act : α → Attempt σ β}
    (h : ∀ a ∈ items, FailsOnly P (act a)) : FailsOnly P (Attempt.forAll items act) := by
  induction items with
  | nil => exact .pure []
  | cons a rest ih =>
    obtain ⟨hfirst, hrest⟩ := List.forall_mem_cons.mp h
    exact hfirst.bind fun b => (ih hrest).bind fun bs => .pure (b :: bs)

end FailsOnly

namespace Fails

/-- A sequence always fails if its first half does. -/
theorem of_first {act : Attempt σ α} (h : Fails P act) (next : α → Attempt σ β) :
    Fails P (act >>= next) := by
  intro s
  obtain ⟨failure, hrun, hP⟩ := h s
  refine ⟨failure, ?_, hP⟩
  rw [run_bind]
  rcases hact : act.run s with ⟨outcome, t⟩
  rw [hact] at hrun
  cases hrun
  rfl

/-- A sequence always fails if its second half does, in the worst case with what its first half
fails with. -/
theorem of_second {act : Attempt σ α} {next : α → Attempt σ β} (h : FailsOnly P act)
    (hn : ∀ a, Fails P (next a)) : Fails P (act >>= next) := by
  intro s
  have hfirst := h s
  rw [run_bind]
  rcases hact : act.run s with ⟨outcome, t⟩
  rw [hact] at hfirst
  cases outcome with
  | ok a => exact hn a t
  | error failure => exact ⟨failure, rfl, hfirst failure rfl⟩

end Fails

namespace FailsExactly

variable {Q : Failure → Prop} {act : Attempt σ α} {next : α → Attempt σ β}

protected theorem pure (a : α) : FailsExactly Never (Pure.pure a : Attempt σ α) :=
  fun _ _ => iff_of_false nofun id

protected theorem fail (failure : Failure) :
    FailsExactly (· = failure) (Attempt.fail failure : Attempt σ α) := by
  intro s other
  constructor
  · intro h
    cases h
    rfl
  · rintro rfl
    rfl

/-- What is found without the state fails as it was found. -/
protected theorem ofExcept (e : Except Failure α) :
    FailsExactly (fun failure => e = .error failure) (Attempt.ofExcept e : Attempt σ α) := by
  intro s failure
  cases e with
  | ok a => exact iff_of_false nofun nofun
  | error other => exact Iff.rfl

/-- The same failures, described in another way. -/
theorem congr (h : FailsExactly P act) (hPQ : ∀ failure, P failure ↔ Q failure) :
    FailsExactly Q act :=
  fun s failure => (h s failure).trans (hPQ failure)

/-- The failures of the first half of a sequence take precedence over those of the second. -/
protected theorem bind (h : FailsExactly P act) (hn : ∀ a, FailsExactly Q (next a)) :
    FailsExactly (FirstOf P Q) (act >>= next) := by
  intro s failure
  have hfirst := h s
  rw [run_bind]
  rcases hact : act.run s with ⟨outcome, t⟩
  rw [hact] at hfirst
  cases outcome with
  | ok a =>
    have hnone : ∀ other, ¬P other := fun other hP => nomatch (hfirst other).mpr hP
    dsimp only
    rw [hn a t failure, FirstOf, or_iff_right (hnone failure), and_iff_right hnone]
  | error other =>
    have hP : P other := (hfirst other).mp rfl
    have hfailure := hfirst failure
    dsimp only at hfailure ⊢
    rw [Except.error.injEq] at hfailure ⊢
    rw [hfailure, FirstOf, or_iff_left fun hnone => hnone.1 other hP]

/-- A first half that never fails can be passed over, -/
theorem never_bind (h : FailsExactly Never act) (hn : ∀ a, FailsExactly Q (next a)) :
    FailsExactly Q (act >>= next) :=
  (h.bind hn).congr fun failure => by simp [FirstOf]

/-- and so can a second one. -/
theorem bind_never (h : FailsExactly P act) (hn : ∀ a, FailsExactly Never (next a)) :
    FailsExactly P (act >>= next) :=
  (h.bind hn).congr fun failure => by simp [FirstOf]

/-- Attempts for the items of a list never fail if none of them does. -/
theorem forAll_never {items : List α} {act : α → Attempt σ β}
    (h : ∀ a ∈ items, FailsExactly Never (act a)) :
    FailsExactly Never (Attempt.forAll items act) := by
  induction items with
  | nil => exact .pure []
  | cons a rest ih =>
    obtain ⟨hfirst, hrest⟩ := List.forall_mem_cons.mp h
    exact hfirst.never_bind fun b => (ih hrest).bind_never fun bs => .pure (b :: bs)

end FailsExactly

end BoundSql.Attempt
