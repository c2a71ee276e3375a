import BoundSql.Failure

/-!
# Log events

What is reported while statements run and transactions open and end. Events carry texts of
statements, numbers and failures; no bound value is ever part of one.
-/

namespace BoundSql

/-- Something worth reporting. -/
inductive LogEvent where
  /-- A statement ran. -/
  | queryExecuted (kind : Kind) (sql : String) (bindings : Nat)
  /-- A transaction was begun. -/
  | transactionBegin
  /-- A transaction was committed. -/
  | transactionCommit
  /-- A transaction was rolled back because of a failure. -/
  | transactionRollback (failure : Failure)
  /-- A total was counted for a page. -/
  | paginateCount (grouped : Bool) (total : Int)
  /-- The names of the tables were fetched. -/
  | schemaCacheLoaded (tables : Nat)
  deriving Repr

/-- How urgent an event is. -/
inductive LogLevel where
  | debug | info | warning
  deriving DecidableEq, Repr

namespace LogEvent

/-- The level of an event: a rollback is a warning, and loading the table names is information. -/
def level : LogEvent → LogLevel
  | transactionRollback _ => .warning
  | schemaCacheLoaded _ => .info
  | _ => .debug

end LogEvent

end BoundSql
