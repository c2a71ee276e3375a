import BoundSql.Builder
import BoundSql.Connection

/-!
# Running statements

A desk is a builder at a connection. Its calls render the statement, run it, and read what comes
back. A statement is rendered before the connection is looked for, so a query that does not render
reaches no database.
-/

namespace BoundSql

/-- A builder at a connection. -/
structure Desk (L : Type) where
  /-- The builder. -/
  builder : Builder
  /-- The connection and the log. -/
  line : Line L

namespace Desk

variable {L : Type}

/-- The builder of a desk. -/
def builderPart : Part (Desk L) Builder := ⟨builder, fun builder d => { d with builder }⟩

/-- The query of a desk. -/
def queryPart : Part (Desk L) Query :=
  ⟨fun d => d.builder.query, fun query d => { d with builder := { d.builder with query } }⟩

/-- The line of a desk. -/
def linePart : Part (Desk L) (Line L) := ⟨line, fun line d => { d with line }⟩

variable [Connection L]

/-- Use a prepared statement. -/
def use {α : Type} (statement : Connection.Statement L)
    (act : Attempt (Connection.Statement L × L) α) :
    Attempt (Desk L) (α × Connection.Statement L) :=
  (Line.use statement act).within linePart

/-- Bind values by name, one after another. -/
def bindAll (statement : Connection.Statement L) :
    Bindings → Attempt (Desk L) (Connection.Statement L)
  | [] => pure statement
  | (name, value) :: rest => do
    let (_, statement) ← use statement (Connection.bind name value)
    bindAll statement rest

/-- Prepare a rendered statement, bind its values and run it. -/
def runCompiled (c : Compiled) : Attempt (Desk L) (Connection.Statement L) := do
  let statement ← (Line.ask .noConnection (Connection.prepare c.sql)).within linePart
  let statement ← bindAll statement c.params
  let (_, statement) ← use statement Connection.execute
  let kind := (← .state).builder.query.kind
  (Line.report (.queryExecuted kind c.sql c.params.length)).within linePart
  pure statement

/-- Render the statement and run it. -/
def run : Attempt (Desk L) (Connection.Statement L) := do
  runCompiled (← Builder.compile.within builderPart)

/-- Run and take all rows. -/
def get : Attempt (Desk L) (List Row) := do
  let (rows, _) ← use (← run) Connection.fetchAll
  pure rows

/-- Take the first row of a statement that ran. -/
def fetchFirst (statement : Connection.Statement L) : Attempt (Desk L) (Option Row) := do
  let (row, _) ← use statement Connection.fetch
  pure row

/-- Run for one row, which becomes the limit when there is none, and take the first. -/
def first : Attempt (Desk L) (Option Row) := do
  (Attempt.update fun q => { q with limit := some (q.limit.getD 1) }).within queryPart
  fetchFirst (← run)

/-- The cell of the first row in one column; null without a row or without the column. -/
def value (column : Value) : Attempt (Desk L) Value := do
  match ← first with
  | none => pure .null
  | some row =>
    if column.isKey then pure ((Entries.find? Value.sameKey column row).getD .null)
    else .fail .mistyped

/-- The count that a row holds; an absent or empty row counts nothing. -/
def countOf : Option Row → Except Failure Int
  | none | some [] => .ok 0
  | some row =>
    match Entries.find? Value.sameKey (.text Query.countName) row with
    | some v => v.toInteger
    | none => .error .absentKey

/-- Count by running the select with the counting column in place of its own. -/
def count : Attempt (Desk L) Int := do
  (Builder.requireKind .count).within builderPart
  let columns := (← .state).builder.query.columns
  let counting : Attempt (Desk L) (Option Row) := do
    (Attempt.update fun q => { q with columns := [.text Query.countColumn] }).within queryPart
    fetchFirst (← run)
  let row ← counting.ensuring fun d =>
    { d with builder := { d.builder with query := { d.builder.query with columns } } }
  .ofExcept (countOf row)

/-- Run and take the number of changed rows. -/
def execute : Attempt (Desk L) Value := do
  let (affected, _) ← use (← run) Connection.rowCount
  pure affected

/-- The identifier of the row inserted last. -/
def lastInsertId : Attempt (Desk L) Value :=
  (Line.ask .noConnection Connection.lastInsertId).within linePart

/-- Run an insert and take the identifier of its row. -/
def insertGetId : Attempt (Desk L) Value := do
  (Builder.requireKind .insertGetId).within builderPart
  let _ ← run
  lastInsertId

end Desk

end BoundSql
