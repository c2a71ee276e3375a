import BoundSql.Connection

/-!
# Transaction scopes

A scope runs a body inside a transaction. When one is already open the body joins it, and the
scope that began it decides how it ends. Otherwise the scope begins one, commits it when the body
answers, and rolls it back and passes the failure on when the body fails.
-/

namespace BoundSql.Line

variable {L σ α : Type} [Connection L]

/-- Call the connection, then report the event of that call. -/
def signal (absent : Failure) (act : Attempt L Unit) (event : LogEvent) :
    Attempt (Line L) Unit := do
  ask absent act
  report event

/-- End a transaction as its body came out: commit it, or roll it back and fail as the body did. -/
def conclude (absent : Failure) (line : Part σ (Line L)) : Except Failure α → Attempt σ α
  | .ok a => do
    (signal absent Connection.commit .transactionCommit).within line
    pure a
  | .error f => do
    (signal absent Connection.rollback (.transactionRollback f)).within line
    .fail f

/-- Run a body inside a transaction. -/
def transactional (absent : Failure) (line : Part σ (Line L)) (body : Attempt σ α) :
    Attempt σ α := do
  let joins ← (ask absent (do return Connection.inTransaction (← .state))).within line
  if joins then body
  else do
    (signal absent Connection.begin .transactionBegin).within line
    conclude absent line (← body.outcome)

end BoundSql.Line
