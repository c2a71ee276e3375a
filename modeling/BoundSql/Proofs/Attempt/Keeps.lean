import BoundSql.Attempt

/-!
# What attempts keep

An attempt keeps a property of states when the property still holds after it, whether the attempt
answers or fails. Everything attempts are put together from keeps what its parts keep.
-/

namespace BoundSql.Attempt

variable {σ τ α β : Type} {P : σ → Prop}

/-- The property still holds after the attempt, also when it fails. -/
def Keeps (P : σ → Prop) (act : Attempt σ α) : Prop := ∀ s, P s → P (act.run s).2

/-- A property holds after a sequence if it holds after its first half and, should that answer,
after the second half from there. -/
theorem holds_bind {act : Attempt σ α} {next : α → Attempt σ β} {s : σ} (h : P (act.run s).2)
    (hn : ∀ a t, act.run s = (.ok a, t) → P t → P ((next a).run t).2) :
    P ((act >>= next).run s).2 := by
  rw [run_bind]
  rcases hrun : act.run s with ⟨outcome, t⟩
  rw [hrun] at h
  cases outcome with
  | ok a => exact hn a t hrun h
  | error f => exact h

/-- A property that holds of a state still holds where a failure found without the state ends it,
and otherwise has to hold behind the answer. -/
theorem holds_ofExcept_bind {e : Except Failure α} {next : α → Attempt σ β} {s : σ} (h : P s)
    (hn : ∀ a, e = .ok a → P ((next a).run s).2) : P ((ofExcept e >>= next).run s).2 := by
  cases e with
  | ok a => exact hn a rfl
  | error f => exact h

namespace Keeps

protected theorem pure (a : α) : Keeps P (Pure.pure a) := fun _ hs => hs

protected theorem fail (f : Failure) : Keeps P (Attempt.fail f : Attempt σ α) := fun _ hs => hs

protected theorem state : Keeps P Attempt.state := fun _ hs => hs

protected theorem update {f : σ → σ} (h : ∀ s, P s → P (f s)) : Keeps P (Attempt.update f) := h

protected theorem ofExcept (e : Except Failure α) : Keeps P (Attempt.ofExcept e) := by
  cases e with
  | ok a => exact .pure a
  | error f => exact .fail f

protected theorem ofOption (absent : Failure) (o : Option α) :
    Keeps P (Attempt.ofOption absent o) := by
  cases o with
  | some a => exact .pure a
  | none => exact .fail absent

/-- A sequence keeps what both of its halves keep. -/
protected theorem bind {act : Attempt σ α} {next : α → Attempt σ β} (h : Keeps P act)
    (hn : ∀ a, Keeps P (next a)) : Keeps P (act >>= next) :=
  fun s hs => holds_bind (h s hs) fun a t _ ht => hn a t ht

/-- An attempt on a part that a property is not about keeps the property. -/
theorem within_other {part : Part σ τ} (hput : ∀ s t, P s → P (part.put t s))
    (act : Attempt τ α) : Keeps P (act.within part) :=
  fun s hs => hput s _ hs

protected theorem ensuring {tidy : σ → σ} (ht : ∀ s, P s → P (tidy s)) {act : Attempt σ α}
    (h : Keeps P act) : Keeps P (act.ensuring tidy) :=
  fun s hs => ht _ (h s hs)

/-- A list of attempts keeps what they all keep. -/
protected theorem forAll {act : α → Attempt σ β} (h : ∀ a, Keeps P (act a)) (items : List α) :
    Keeps P (Attempt.forAll items act) := by
  induction items with
  | nil => exact .pure []
  | cons a rest ih => exact (h a).bind fun _ => ih.bind fun _ => .pure _

protected theorem outcome {act : Attempt σ α} (h : Keeps P act) : Keeps P act.outcome :=
  fun s hs => h s hs

end Keeps

end BoundSql.Attempt
