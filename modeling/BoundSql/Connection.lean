import BoundSql.Attempt
import BoundSql.Log

/-!
# Connections

What builders ask of a database: to prepare a text, to bind values and run it, to read its rows,
and to begin and end transactions. A connection is a state these calls act on; a prepared
statement is a second state, which its own calls change together with the connection.
-/

namespace BoundSql

/-- The calls on a connection and on its prepared statements. -/
class Connection (L : Type) where
  /-- A prepared statement. -/
  Statement : Type
  /-- Prepare a statement. -/
  prepare : String → Attempt L Statement
  /-- Bind a value to a name. -/
  bind : String → Value → Attempt (Statement × L) Unit
  /-- Run the statement. -/
  execute : Attempt (Statement × L) Unit
  /-- Take the next row, if there is one. -/
  fetch : Attempt (Statement × L) (Option Row)
  /-- Take all rows that are left. -/
  fetchAll : Attempt (Statement × L) (List Row)
  /-- The number of rows the statement changed. -/
  rowCount : Attempt (Statement × L) Value
  /-- The identifier of the row inserted last. -/
  lastInsertId : Attempt L Value
  /-- Whether a transaction is open. -/
  inTransaction : L → Bool
  /-- Begin a transaction. -/
  begin : Attempt L Unit
  /-- Make the changes of the transaction last. -/
  commit : Attempt L Unit
  /-- Undo the changes of the transaction. -/
  rollback : Attempt L Unit
  /-- The names of the tables, as far as the database can tell. -/
  tableNames : Attempt L (List Value)
  /-- The connection after its driver was closed. -/
  close : L → L
  /-- Whether the connection is an adapter around a driver. -/
  wraps : Bool

/-- A connection, if there is one, and what was reported while using it. -/
structure Line (L : Type) where
  /-- The connection. -/
  link : Option L
  /-- The events reported so far, oldest first. -/
  log : List LogEvent

namespace Line

variable {L σ α : Type}

/-- Report an event. -/
def report (e : LogEvent) : Attempt (Line L) Unit := .update fun l => { l with log := l.log ++ [e] }

/-- Use the connection; its absence is a failure that depends on who asks. -/
def ask (absent : Failure) (act : Attempt L α) : Attempt (Line L) α := fun l =>
  match l.link with
  | none => (.error absent, l)
  | some link =>
    let (outcome, link) := act link
    (outcome, { l with link := some link })

/-- Use a prepared statement that is kept only while it goes on well. -/
def use [Connection L] (statement : Connection.Statement L)
    (act : Attempt (Connection.Statement L × L) α) :
    Attempt (Line L) (α × Connection.Statement L) :=
  ask .noConnection fun link =>
    match act (statement, link) with
    | (.ok a, statement, link) => (.ok (a, statement), link)
    | (.error f, _, link) => (.error f, link)

end Line

end BoundSql
