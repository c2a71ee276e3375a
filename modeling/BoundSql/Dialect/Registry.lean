import BoundSql.Dialect
import BoundSql.Entries
import BoundSql.Failure

/-!
# Registered dialects

Dialects are found by the name they are registered under, which need not be their own. Registering
a name again replaces its dialect.
-/

namespace BoundSql

/-- Dialects by registered name. -/
structure Registry where
  /-- The registrations. -/
  entries : Entries String Dialect

namespace Registry

/-- The dialects every registry starts with. -/
def standard : Registry := ⟨Target.byName.map fun (name, t) => (name, Dialect.ofTarget t)⟩

/-- Register a dialect under a name. -/
def register (r : Registry) (name : String) (d : Dialect) : Registry :=
  ⟨Entries.put (· == ·) name d r.entries⟩

/-- The registered names, sorted by code points. -/
def names (r : Registry) : List String := (Entries.keys r.entries).mergeSort fun a b => !(b < a)

/-- The dialect registered under a name. -/
def find (r : Registry) (name : String) : Except Failure Dialect :=
  match Entries.find? (· == ·) name r.entries with
  | some d => .ok d
  | none => .error (.unknownDialect name r.names)

end Registry

end BoundSql
