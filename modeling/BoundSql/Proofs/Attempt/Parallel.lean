import BoundSql.Attempt
import Mathlib.Data.List.Forall2
import Mathlib.Logic.Relation

/-!
# Attempts that run in parallel

Two attempts on two kinds of state are parallel when related states lead them to related answers or
to the same failure, and in both cases to related states. Sequences, scopes and lists of parallel
attempts are parallel, so a two-run statement about a program reduces to its single calls.
-/

namespace BoundSql

/-- Two outcomes agree: their answers are related, or they are the same failure. -/
inductive Agrees {α β : Type} (Q : α → β → Prop) : Except Failure α → Except Failure β → Prop
  | ok {a : α} {b : β} (h : Q a b) : Agrees Q (.ok a) (.ok b)
  | error (f : Failure) : Agrees Q (.error f) (.error f)

theorem Agrees.refl {α : Type} (e : Except Failure α) : Agrees Eq e e := by
  cases e with
  | ok a => exact .ok rfl
  | error f => exact .error f

/-- Outcomes agree by any weaker relation. -/
theorem Agrees.imp {α β : Type} {Q Q' : α → β → Prop} {e : Except Failure α}
    {e' : Except Failure β} (h : Agrees Q e e') (himp : ∀ a b, Q a b → Q' a b) :
    Agrees Q' e e' := by
  cases h with
  | ok h => exact .ok (himp _ _ h)
  | error f => exact .error f

/-- Outcomes that both agree with a third one agree. -/
theorem Agrees.join {α : Type} {Q : α → α → Prop} {e e' mid : Except Failure α}
    (h : Agrees Q e mid) (h' : Agrees Q e' mid) : Agrees (Relation.Join Q) e e' := by
  cases h with
  | ok h =>
    cases h' with
    | ok h' => exact .ok ⟨_, h, h'⟩
  | error f =>
    cases h' with
    | error f => exact .error f

/-- Items of related lists are related. -/
theorem forall₂_getD {α β : Type} {R : α → β → Prop} {as : List α} {bs : List β}
    (h : List.Forall₂ R as bs) {a : α} {b : β} (hab : R a b) (n : Nat) :
    R (as[n]?.getD a) (bs[n]?.getD b) := by
  induction h generalizing n with
  | nil => exact hab
  | cons h _ ih =>
    cases n with
    | zero => exact h
    | succ n => exact ih n

/-- Related lists stay so when related items are set. -/
theorem forall₂_set {α β : Type} {R : α → β → Prop} {as : List α} {bs : List β}
    (h : List.Forall₂ R as bs) {a : α} {b : β} (hab : R a b) (n : Nat) :
    List.Forall₂ R (as.set n a) (bs.set n b) := by
  induction h generalizing n with
  | nil => exact .nil
  | cons h hrest ih =>
    cases n with
    | zero => exact .cons hab hrest
    | succ n => exact .cons h (ih n)

namespace Attempt

variable {σ τ σ' τ' α β γ δ : Type} {R : σ → τ → Prop} {Q : α → β → Prop}

/-- From related states the attempts come to outcomes that agree and to related states. -/
def Parallel (R : σ → τ → Prop) (Q : α → β → Prop) (left : Attempt σ α) (right : Attempt τ β) :
    Prop :=
  ∀ s t, R s t → Agrees Q (left.run s).1 (right.run t).1 ∧ R (left.run s).2 (right.run t).2

namespace Parallel

protected theorem pure {a : α} {b : β} (h : Q a b) : Parallel R Q (Pure.pure a) (Pure.pure b) :=
  fun _ _ hR => ⟨.ok h, hR⟩

protected theorem fail (f : Failure) : Parallel R Q (Attempt.fail f) (Attempt.fail f) :=
  fun _ _ hR => ⟨.error f, hR⟩

protected theorem state : Parallel R R Attempt.state Attempt.state :=
  fun _ _ hR => ⟨.ok hR, hR⟩

protected theorem update {f : σ → σ} {g : τ → τ} (h : ∀ s t, R s t → R (f s) (g t)) :
    Parallel R Eq (Attempt.update f) (Attempt.update g) :=
  fun s t hR => ⟨.ok rfl, h s t hR⟩

protected theorem ofExcept {e : Except Failure α} {e' : Except Failure β} (h : Agrees Q e e') :
    Parallel R Q (Attempt.ofExcept e) (Attempt.ofExcept e') := by
  cases h with
  | ok h => exact .pure h
  | error f => exact .fail f

protected theorem ofOption {o : Option α} {o' : Option β} (absent : Failure)
    (h : Option.Rel Q o o') :
    Parallel R Q (Attempt.ofOption absent o) (Attempt.ofOption absent o') := by
  cases h with
  | some h => exact .pure h
  | none => exact .fail absent

/-- Parallel attempts in a row are parallel. -/
protected theorem bind {Q' : γ → δ → Prop} {left : Attempt σ α} {right : Attempt τ β}
    {next : α → Attempt σ γ} {next' : β → Attempt τ δ} (h : Parallel R Q left right)
    (hn : ∀ a b, Q a b → Parallel R Q' (next a) (next' b)) :
    Parallel R Q' (left >>= next) (right >>= next') := by
  intro s t hR
  rw [run_bind, run_bind]
  obtain ⟨hout, hend⟩ := h s t hR
  rcases hl : left.run s with ⟨outcome, s₁⟩
  rcases hr : right.run t with ⟨outcome', t₁⟩
  rw [hl, hr] at hout hend
  cases hout with
  | ok hab => exact hn _ _ hab s₁ t₁ hend
  | error f => exact ⟨.error f, hend⟩

/-- What follows the same reading of an argument is parallel when it is for each result. -/
protected theorem ofExcept_bind {Q' : γ → δ → Prop} {e : Except Failure α}
    {next : α → Attempt σ γ} {next' : α → Attempt τ δ}
    (hn : ∀ a, e = .ok a → Parallel R Q' (next a) (next' a)) :
    Parallel R Q' (Attempt.ofExcept e >>= next) (Attempt.ofExcept e >>= next') := by
  cases e with
  | ok a => exact hn a rfl
  | error failure => exact .fail failure

/-- Attempts on corresponding parts are parallel on the whole. -/
protected theorem within {R' : σ' → τ' → Prop} {part : Part σ σ'} {part' : Part τ τ'}
    (hget : ∀ s t, R s t → R' (part.get s) (part'.get t))
    (hput : ∀ s t u v, R s t → R' u v → R (part.put u s) (part'.put v t))
    {left : Attempt σ' α} {right : Attempt τ' β} (h : Parallel R' Q left right) :
    Parallel R Q (left.within part) (right.within part') := by
  intro s t hR
  obtain ⟨hout, hend⟩ := h _ _ (hget s t hR)
  exact ⟨hout, hput s t _ _ hR hend⟩

/-- Attempts stay parallel when both states are tidied up in the same way. -/
protected theorem ensuring {tidy : σ → σ} {tidy' : τ → τ}
    (ht : ∀ s t, R s t → R (tidy s) (tidy' t)) {left : Attempt σ α} {right : Attempt τ β}
    (h : Parallel R Q left right) : Parallel R Q (left.ensuring tidy) (right.ensuring tidy') := by
  intro s t hR
  obtain ⟨hout, hend⟩ := h s t hR
  exact ⟨hout, ht _ _ hend⟩

/-- What parallel attempts come to agrees also where it is only looked at. -/
protected theorem outcome {left : Attempt σ α} {right : Attempt τ β} (h : Parallel R Q left right) :
    Parallel R (Agrees Q) left.outcome right.outcome := by
  intro s t hR
  obtain ⟨hout, hend⟩ := h s t hR
  exact ⟨.ok hout, hend⟩

/-- Parallel attempts may be told to agree in less. -/
protected theorem imp {Q' : α → β → Prop} {left : Attempt σ α} {right : Attempt τ β}
    (h : Parallel R Q left right) (himp : ∀ a b, Q a b → Q' a b) : Parallel R Q' left right := by
  intro s t hR
  obtain ⟨hout, hend⟩ := h s t hR
  exact ⟨hout.imp himp, hend⟩

/-- Attempts that are both parallel to a third one are parallel on states that are both related to a
third one. -/
protected theorem join {R : σ → σ → Prop} {Q : α → α → Prop} {left right mid : Attempt σ α}
    (h : Parallel R Q left mid) (h' : Parallel R Q right mid) :
    Parallel (Relation.Join R) (Relation.Join Q) left right := by
  rintro s t ⟨r, hs, ht⟩
  obtain ⟨hout, hend⟩ := h s r hs
  obtain ⟨hout', hend'⟩ := h' t r ht
  exact ⟨hout.join hout', _, hend, hend'⟩

/-- Attempts for the items of related lists are parallel when those for related items are. -/
protected theorem forAll {P : α → β → Prop} {Q' : γ → δ → Prop} {items : List α}
    {items' : List β} {act : α → Attempt σ γ} {act' : β → Attempt τ δ}
    (hitems : List.Forall₂ P items items')
    (h : ∀ a b, P a b → Parallel R Q' (act a) (act' b)) :
    Parallel R (List.Forall₂ Q') (Attempt.forAll items act) (Attempt.forAll items' act') := by
  induction hitems with
  | nil => exact .pure .nil
  | cons hab _ ih =>
    refine Parallel.bind (h _ _ hab) fun x y hxy => ?_
    refine Parallel.bind ih fun xs ys hxys => ?_
    exact .pure (.cons hxy hxys)

end Parallel

end Attempt

end BoundSql
