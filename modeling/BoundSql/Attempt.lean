import BoundSql.Failure

/-!
# Attempts

A call either answers or fails, and in both cases leaves a state behind: nothing is undone by a
failure. An attempt is such a call as a function of the state. The operations say how attempts on
a part of a state run inside the whole, and how a state is tidied up on every way out.
-/

namespace BoundSql

/-- A call on a state: an answer or a failure, and the state afterwards. -/
def Attempt (σ α : Type) : Type := σ → Except Failure α × σ

/-- A part of a larger state. -/
structure Part (σ τ : Type) where
  /-- The part of a state. -/
  get : σ → τ
  /-- The state with another part. -/
  put : τ → σ → σ

namespace Part

variable {σ τ ρ : Type}

/-- The second of two states. -/
def second : Part (ρ × σ) σ := ⟨Prod.snd, fun t s => (s.1, t)⟩

/-- A part of the second of two states. -/
def ofSecond (part : Part σ τ) : Part (ρ × σ) τ :=
  ⟨fun s => part.get s.2, fun t s => (s.1, part.put t s.2)⟩

end Part

namespace Attempt

variable {σ τ α β : Type}

/-- Run an attempt. -/
def run (act : Attempt σ α) (s : σ) : Except Failure α × σ := act s

/-- The attempt that answers and changes nothing. -/
protected def pure (a : α) : Attempt σ α := fun s => (.ok a, s)

/-- One attempt after another; a failure of the first is the failure of both. -/
protected def bind (act : Attempt σ α) (next : α → Attempt σ β) : Attempt σ β := fun s =>
  match act s with
  | (.ok a, t) => next a t
  | (.error f, t) => (.error f, t)

instance : Monad (Attempt σ) where
  pure := Attempt.pure
  bind := Attempt.bind

/-- Fail and change nothing. -/
def fail (f : Failure) : Attempt σ α := fun s => (.error f, s)

/-- The present state. -/
def state : Attempt σ σ := fun s => (.ok s, s)

/-- Change the state. -/
def update (f : σ → σ) : Attempt σ Unit := fun s => (.ok (), f s)

/-- An answer or failure that was found without the state. -/
def ofExcept : Except Failure α → Attempt σ α
  | .ok a => Attempt.pure a
  | .error f => fail f

/-- The answer of an optional value, or a failure for its absence. -/
def ofOption (absent : Failure) : Option α → Attempt σ α
  | some a => Attempt.pure a
  | none => fail absent

/-- Run an attempt on a part of the state. -/
def within (part : Part σ τ) (act : Attempt τ α) : Attempt σ α := fun s =>
  let (outcome, t) := act (part.get s)
  (outcome, part.put t s)

/-- Run an attempt and change the state afterwards, whether it answers or fails. -/
def ensuring (act : Attempt σ α) (tidy : σ → σ) : Attempt σ α := fun s =>
  let (outcome, t) := act s
  (outcome, tidy t)

/-- Run an attempt and look at its outcome instead of failing. -/
def outcome (act : Attempt σ α) : Attempt σ (Except Failure α) := fun s =>
  let (r, t) := act s
  (.ok r, t)

/-- Run an attempt for each item of a list and collect the answers. -/
def forAll (items : List α) (act : α → Attempt σ β) : Attempt σ (List β) :=
  match items with
  | [] => pure []
  | a :: rest => do
    let b ← act a
    let bs ← forAll rest act
    pure (b :: bs)

@[simp] theorem run_pure (a : α) (s : σ) : (pure a : Attempt σ α).run s = (.ok a, s) := rfl

@[simp] theorem run_fail (f : Failure) (s : σ) : (fail f : Attempt σ α).run s = (.error f, s) := rfl

@[simp] theorem run_state (s : σ) : (state : Attempt σ σ).run s = (.ok s, s) := rfl

@[simp] theorem run_update (f : σ → σ) (s : σ) : (update f).run s = (.ok (), f s) := rfl

@[simp] theorem run_ofExcept_ok (a : α) (s : σ) : (ofExcept (.ok a)).run s = (.ok a, s) := rfl

@[simp] theorem run_ofExcept_error (f : Failure) (s : σ) :
    (ofExcept (.error f) : Attempt σ α).run s = (.error f, s) := rfl

/-- A result found without the state leaves the state as it is. -/
theorem run_ofExcept (e : Except Failure α) (s : σ) : (ofExcept e).run s = (e, s) := by
  cases e <;> rfl

/-- A sequence goes on from the state of its first half, if that half answers. -/
theorem run_bind (act : Attempt σ α) (next : α → Attempt σ β) (s : σ) :
    (act >>= next).run s =
      match act.run s with
      | (.ok a, t) => (next a).run t
      | (.error f, t) => (.error f, t) := rfl

/-- A sequence that answers has gone on from an answer of its first half. -/
theorem run_bind_eq_ok {act : Attempt σ α} {next : α → Attempt σ β} {s t : σ} {b : β}
    (h : (act >>= next).run s = (.ok b, t)) :
    ∃ a mid, act.run s = (.ok a, mid) ∧ (next a).run mid = (.ok b, t) := by
  rw [run_bind] at h
  rcases hact : act.run s with ⟨outcome, mid⟩
  rw [hact] at h
  cases outcome with
  | ok a => exact ⟨a, mid, rfl, h⟩
  | error f => cases h

/-- A result found without the state answers as it is. -/
theorem run_ofExcept_eq_ok {e : Except Failure α} {s t : σ} {a : α}
    (h : (ofExcept e).run s = (.ok a, t)) : e = .ok a ∧ t = s := by
  cases e with
  | ok a' =>
    cases h
    exact ⟨rfl, rfl⟩
  | error f => cases h

/-- What goes on from a result found without the state starts from the same state. -/
theorem run_ofExcept_bind_eq_ok {e : Except Failure α} {next : α → Attempt σ β} {s t : σ} {b : β}
    (h : (ofExcept e >>= next).run s = (.ok b, t)) :
    ∃ a, e = .ok a ∧ (next a).run s = (.ok b, t) := by
  obtain ⟨a, mid, hrun, hnext⟩ := run_bind_eq_ok h
  obtain ⟨he, rfl⟩ := run_ofExcept_eq_ok hrun
  exact ⟨a, he, hnext⟩

/-- An optional value that answers is there. -/
theorem run_ofOption_eq_ok {absent : Failure} {o : Option α} {s t : σ} {a : α}
    (h : (ofOption absent o).run s = (.ok a, t)) : o = some a ∧ t = s := by
  cases o with
  | some a' =>
    cases h
    exact ⟨rfl, rfl⟩
  | none => cases h

@[simp] theorem run_within (part : Part σ τ) (act : Attempt τ α) (s : σ) :
    (act.within part).run s = ((act.run (part.get s)).1, part.put (act.run (part.get s)).2 s) := rfl

/-- An answer on a part is an answer of the attempt on that part. -/
theorem run_within_eq_ok {part : Part σ τ} {act : Attempt τ α} {s t : σ} {a : α}
    (h : (act.within part).run s = (.ok a, t)) :
    ∃ u, act.run (part.get s) = (.ok a, u) ∧ t = part.put u s := by
  rw [run_within] at h
  rcases hact : act.run (part.get s) with ⟨outcome, u⟩
  rw [hact] at h
  cases h
  exact ⟨u, rfl, rfl⟩

@[simp] theorem run_outcome (act : Attempt σ α) (s : σ) :
    act.outcome.run s = (.ok (act.run s).1, (act.run s).2) := rfl

@[simp] theorem run_ensuring (act : Attempt σ α) (tidy : σ → σ) (s : σ) :
    (act.ensuring tidy).run s = ((act.run s).1, tidy (act.run s).2) := rfl

instance : LawfulMonad (Attempt σ) :=
  LawfulMonad.mk' (Attempt σ)
    (by
      intro α act
      funext s
      show Attempt.bind act (fun a => Attempt.pure a) s = act s
      unfold Attempt.bind
      split <;> rename_i h <;> simp [h, Attempt.pure])
    (fun _ _ => rfl)
    (by
      intro α β γ act f g
      funext s
      show Attempt.bind (Attempt.bind act f) g s =
        Attempt.bind act (fun a => Attempt.bind (f a) g) s
      unfold Attempt.bind
      cases act s with
      | mk r t => cases r <;> rfl)

end Attempt

end BoundSql
