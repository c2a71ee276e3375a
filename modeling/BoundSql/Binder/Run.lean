import BoundSql.Attempt
import BoundSql.Binder

/-!
# Runs of a binder

A run of calls on one binder: names are issued and reset, snapshots are taken under a key and
restored any number of times, and bindings can be set by name.
-/

namespace BoundSql

/-- A call on a binder. -/
inductive BinderCall where
  | bind (value : Value)
  | reset
  | snapshot (key : String)
  | restore (key : String)
  /-- Look at a snapshot. -/
  | inspect (key : String)
  | assign (name : String) (value : Value)
  deriving Repr

/-- What a call on a binder answers. -/
inductive BinderAnswer where
  | done
  | name (issued : String)
  | snapshot (b : Binder)
  deriving Repr

/-- A binder with the snapshots taken of it. -/
structure BinderRun where
  /-- The binder. -/
  binder : Binder
  /-- The snapshots by key. -/
  snapshots : Entries String Binder
  deriving Repr

namespace BinderRun

/-- A run that has not begun. -/
def start : BinderRun := ⟨.fresh, []⟩

/-- The snapshot of a key. -/
def taken (key : String) : Attempt BinderRun Binder := do
  .ofOption .absentKey (Entries.find? (· == ·) key (← .state).snapshots)

/-- Change the binder. -/
def change (f : Binder → Binder) : Attempt BinderRun BinderAnswer := do
  .update fun r => { r with binder := f r.binder }
  pure .done

/-- Make a call. -/
def perform : BinderCall → Attempt BinderRun BinderAnswer
  | .bind value => do
    let (issued, binder) := (← .state).binder.bind value
    .update fun r => { r with binder }
    pure (.name issued)
  | .reset => change Binder.reset
  | .snapshot key => do
    .update fun r => { r with snapshots := Entries.put (· == ·) key r.binder r.snapshots }
    pure .done
  | .restore key => do
    let saved ← taken key
    change fun _ => saved
  | .inspect key => do return .snapshot (← taken key)
  | .assign name value => change fun b => b.assign name value

end BinderRun

end BoundSql
