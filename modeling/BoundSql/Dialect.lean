/-!
# Dialects

A dialect decides how a placeholder name is written in a statement. Those that settings can ask for
write it between two fixed texts.
-/

namespace BoundSql

/-- How placeholders are written. -/
structure Dialect where
  /-- The name of the dialect. -/
  name : String
  /-- The placeholder for a name. -/
  placeholder : String → String

/-- A dialect is shown by its name. -/
instance : Repr Dialect := ⟨fun d precedence => reprPrec d.name precedence⟩

/-- The dialects that settings can ask for. -/
inductive Target where
  | sqlite | postgres | mysql
  deriving DecidableEq, Repr

namespace Target

/-- The name of a target. -/
def name : Target → String
  | sqlite => "sqlite"
  | postgres => "postgres"
  | mysql => "mysql"

/-- All targets by name. -/
def byName : List (String × Target) :=
  [("sqlite", sqlite), ("postgres", postgres), ("mysql", mysql)]

end Target

namespace Dialect

/-- The dialect that writes a placeholder name between two texts. -/
def between (name before after : String) : Dialect := ⟨name, fun p => before ++ p ++ after⟩

/-- The dialect of a target: a colon before the name, or the name in a percent form. -/
def ofTarget : Target → Dialect
  | .sqlite => between "sqlite" ":" ""
  | .postgres => between "postgres" "%(" ")s"
  | .mysql => between "mysql" "%(" ")s"

end Dialect

end BoundSql
