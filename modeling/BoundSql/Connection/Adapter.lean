import BoundSql.Binder
import BoundSql.Connection.Wire

/-!
# Adapters

What the adapters around a driver have in common. The driver may open a transaction for a statement
by itself. When none was open before, the adapter ends the one the driver opened: it commits after a
success, and rolls back after an error of the driver's own classes. A transaction that was open
before is left to whoever began it.
-/

namespace BoundSql.Adapter

variable {σ α : Type}

/-- The arguments of the call that runs a statement: its text and the values bound by name. -/
def arguments (sql : String) (params : Bindings) : List Value :=
  [.text sql, .map (params.map fun (name, value) => (Value.text name, value))]

/-- The values bound by name after one more was bound. -/
def bound (name : String) (value : Value) (params : Bindings) : Bindings :=
  Entries.put (· == ·) (Text.dropLeading ':' name) value params

/-- The driver opens a transaction, unless one is open. -/
def begin (wire : Part σ Wire) (nested : DriverFault) : Attempt σ Unit := do
  if (wire.get (← .state)).inTransaction then .fail (.driver nested)
  else (Attempt.update Wire.opened).within wire

/-- Serve a statement and end the transaction that was opened for it, unless one was open before. A
failure that is not the driver's own ends nothing, and where the rollback fails, its failure takes
the place of the first one. -/
def execute (wire : Part σ Wire) (own : Failure → Bool) (serve : Attempt σ α) : Attempt σ Unit := do
  let joins := (wire.get (← .state)).inTransaction
  let outcome ← serve.outcome
  let endsNow := !joins && (wire.get (← .state)).inTransaction
  match outcome with
  | .ok _ => if endsNow then Wire.commit.within wire else pure ()
  | .error f => do
    if own f && endsNow then Wire.rollback.within wire
    .fail f

end BoundSql.Adapter
