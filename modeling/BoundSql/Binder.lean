import BoundSql.Value

/-!
# Binders

A binder issues the placeholder names `p1`, `p2`, … and keeps the value of each. The counter only
moves forward, also over a reset, so a name is issued once; restoring a snapshot moves both back
together.
-/

namespace BoundSql

/-- Names with their values, in the order of their first binding. -/
abbrev Bindings := Entries String Value

/-- The values bound so far and the number of the last name issued. -/
structure Binder where
  /-- The live bindings. -/
  params : Bindings
  /-- The number of the name issued last. -/
  counter : Nat
  deriving Repr

namespace Binder

/-- A binder that has issued nothing. -/
def fresh : Binder := ⟨[], 0⟩

/-- The `n`-th placeholder name. -/
def nameOf (n : Nat) : String := "p" ++ toString n

/-- Set a binding by its name. -/
def assign (b : Binder) (name : String) (value : Value) : Binder :=
  { b with params := Entries.put (· == ·) name value b.params }

/-- Bind a value to the next name. -/
def bind (b : Binder) (value : Value) : String × Binder :=
  let name := nameOf (b.counter + 1)
  (name, { b.assign name value with counter := b.counter + 1 })

/-- Drop the bindings; the counter stays. -/
def reset (b : Binder) : Binder := { b with params := [] }

@[simp] theorem counter_bind (b : Binder) (value : Value) :
    (b.bind value).2.counter = b.counter + 1 := rfl

@[simp] theorem counter_reset (b : Binder) : b.reset.counter = b.counter := rfl

@[simp] theorem params_reset (b : Binder) : b.reset.params = [] := rfl

end Binder

end BoundSql
