import BoundSql.Attempt

/-!
# Parts of a state

A part is lawful when it is what was put there last, and putting back what is found changes nothing.
A part of the second of two states is as lawful as it is there.
-/

namespace BoundSql.Part

variable {σ τ ρ : Type}

/-- What was put into a part is found there, and putting back what is found changes nothing. -/
structure Lawful (part : Part σ τ) : Prop where
  /-- A part is what was put there last. -/
  get_put : ∀ t s, part.get (part.put t s) = t
  /-- A part that is put back leaves the state as it is. -/
  put_get : ∀ s, part.put (part.get s) s = s

/-- Writing to a part beside something else is reading it back. -/
theorem Lawful.ofSecond {part : Part σ τ} (h : part.Lawful) : (part.ofSecond (ρ := ρ)).Lawful :=
  ⟨fun t s => h.get_put t s.2, fun s => Prod.ext rfl (h.put_get s.2)⟩

end BoundSql.Part
