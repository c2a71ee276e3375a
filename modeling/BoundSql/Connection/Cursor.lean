import BoundSql.Connection
import BoundSql.Connection.Adapter

/-!
# Cursor connections

An adapter for a driver that runs statements on cursors and reads rows as they are asked for. The
driver opens a transaction before a change by itself.
-/

namespace BoundSql

/-- What the driver does when it runs a statement. -/
structure CursorOutcome where
  /-- Whether it opens a transaction. -/
  opens : Bool
  /-- The error it raises then, if any. -/
  fault : Option DriverFault
  /-- The column names it announces, if any. -/
  columns : Option (List Value)
  /-- The cells of each row. -/
  rows : List (List Value)
  /-- The column names that the rows carry themselves, if they do. -/
  rowColumns : Option (List Value)
  /-- The number of changed rows. -/
  rowCount : Value
  deriving Repr

namespace CursorOutcome

/-- The outcome of a statement the script says nothing about. -/
def empty : CursorOutcome := ⟨false, none, none, [], none, .int (-1)⟩

end CursorOutcome

/-- A row as the driver returns it. -/
structure RawRow where
  /-- The column names it carries itself. -/
  columns : Option (List Value)
  /-- Its cells. -/
  cells : List Value
  deriving Repr

/-- A cursor of the driver. -/
structure Cursor where
  /-- The announced column names. -/
  columns : Option (List Value)
  /-- The rows not yet read. -/
  pending : List RawRow
  /-- The number of changed rows. -/
  rowCount : Value
  deriving Repr

namespace Cursor

/-- A cursor on which nothing has run. -/
def fresh : Cursor := ⟨none, [], .int (-1)⟩

/-- A cursor after a statement. Announced columns are kept when none are announced anew. -/
def after (c : Cursor) (o : CursorOutcome) : Cursor :=
  ⟨o.columns.orElse fun _ => c.columns, o.rows.map fun cells => ⟨o.rowColumns, cells⟩, o.rowCount⟩

/-- A row with its names: those it carries, or else the announced ones; what has no partner is
dropped. -/
def row (c : Cursor) (r : RawRow) : Row :=
  Value.mapOf ((r.columns.getD (c.columns.getD [])).zip r.cells)

end Cursor

/-- An adapter over a cursor driver. -/
structure CursorLink where
  /-- The far end. -/
  wire : Wire
  /-- What the statements still to come do. -/
  script : List CursorOutcome
  /-- The identifier of the row inserted last. -/
  rowId : Value
  /-- Whether the connection is closed. -/
  closed : Bool

namespace CursorLink

/-- A prepared statement: its text, its bindings and its cursor. -/
structure Statement where
  /-- The text. -/
  sql : String
  /-- The values bound by name. -/
  params : Bindings
  /-- The cursor it runs on. -/
  cursor : Cursor

/-- The far end of the adapter. -/
def wirePart : Part CursorLink Wire := ⟨wire, fun wire l => { l with wire }⟩

/-- The error of a closed connection. -/
def closedFault : DriverFault := ⟨.programming, "Cannot operate on a closed database."⟩

/-- The error of beginning a transaction inside another. -/
def nestedFault : DriverFault := ⟨.operational, "cannot start a transaction within a transaction"⟩

/-- The query for the identifier of the row inserted last. -/
def lastRowQuery : String := "SELECT last_insert_rowid()"

/-- The query for the names of the tables. -/
def tablesQuery : String :=
  "SELECT name FROM sqlite_master WHERE type = 'table' AND name NOT LIKE 'sqlite_%' ORDER BY name"

/-- A call to the driver. -/
def call (name : String) (args : List Value) : Attempt CursorLink Unit :=
  (Wire.call name args).within wirePart

/-- A failure on a closed connection. -/
def requireOpen : Attempt CursorLink Unit := do
  if (← .state).closed then .fail (.driver closedFault) else pure ()

/-- The driver runs a statement as the script says. -/
def perform (sql : String) : Attempt CursorLink CursorOutcome := do
  let outcome := (← .state).script.headD .empty
  .update fun l => { l with script := l.script.drop 1 }
  (Wire.perform outcome.opens outcome.fault sql).within wirePart
  pure outcome

/-- A new cursor; when the driver refuses one, the statement cannot be prepared. -/
def prepare (sql : String) : Attempt CursorLink Statement := fun link =>
  match (do call "cursor" []; requireOpen : Attempt CursorLink Unit) link with
  | (.ok _, link) => (.ok ⟨sql, [], .fresh⟩, link)
  | (.error (.driver fault), link) =>
    if fault.kind = .programming then (.error (.notPrepared sql fault), link)
    else (.error (.driver fault), link)
  | (.error f, link) => (.error f, link)

/-- Whether a failure is an error of the driver's own classes. -/
def isOwnFault : Failure → Bool := Failure.isFaultOf FaultClass.ofCursorDriver

/-- The driver runs the text of a statement with its bindings. -/
def runOnCursor (statement : Statement) : Attempt CursorLink CursorOutcome := do
  call "cursor.execute" (Adapter.arguments statement.sql statement.params)
  perform statement.sql

/-- The driver runs a statement, and its cursor moves on to the result. -/
def serve : Attempt (Statement × CursorLink) CursorOutcome := do
  let (statement, _) ← .state
  let outcome ← (runOnCursor statement).within .second
  .update fun s => ({ s.1 with cursor := s.1.cursor.after outcome }, s.2)
  pure outcome

/-- Run a statement and end the transaction the driver opened for it, unless one was open before. -/
def execute : Attempt (Statement × CursorLink) Unit :=
  Adapter.execute wirePart.ofSecond isOwnFault serve

/-- Take the next row from the cursor. -/
def fetch : Attempt (Statement × CursorLink) (Option Row) := do
  (call "cursor.fetchone" []).within .second
  let (statement, _) ← .state
  let cursor := statement.cursor
  .update fun s => ({ s.1 with cursor := { cursor with pending := cursor.pending.drop 1 } }, s.2)
  pure (cursor.pending.head?.map cursor.row)

/-- Take all rows that are left from the cursor. -/
def fetchAll : Attempt (Statement × CursorLink) (List Row) := do
  (call "cursor.fetchall" []).within .second
  let (statement, _) ← .state
  let cursor := statement.cursor
  .update fun s => ({ s.1 with cursor := { cursor with pending := [] } }, s.2)
  pure (cursor.pending.map cursor.row)

/-- Ask the driver for the identifier of the row inserted last. -/
def lastInsertId : Attempt CursorLink Value := do
  call "raw.execute" [.text lastRowQuery]
  requireOpen
  call "cursor.fetchone" []
  return .text (← .ofExcept (← .state).rowId.write)

/-- Begin a transaction. -/
def begin : Attempt CursorLink Unit := do
  call "raw.execute" [.text "BEGIN"]
  requireOpen
  Adapter.begin wirePart nestedFault

/-- The first cell of a row. -/
def firstCell (cells : List Value) : Except Failure Value :=
  match cells with
  | v :: _ => .ok v
  | [] => .error .absentIndex

/-- Ask the driver for the names of the tables; the cursor is closed on every way out. -/
def tableNames : Attempt CursorLink (List Value) := do
  call "raw.execute" [.text tablesQuery]
  requireOpen
  let outcome ← perform tablesQuery
  let names ← Attempt.outcome do
    call "cursor.fetchall" []
    .ofExcept (outcome.rows.mapM firstCell)
  call "cursor.close" []
  .ofExcept names

instance : Connection CursorLink where
  Statement := Statement
  prepare := prepare
  bind name value := .update fun s =>
    ({ s.1 with params := Adapter.bound name value s.1.params }, s.2)
  execute := execute
  fetch := fetch
  fetchAll := fetchAll
  rowCount := do return (← .state).1.cursor.rowCount
  lastInsertId := lastInsertId
  inTransaction l := l.wire.inTransaction
  begin := begin
  commit := Wire.commit.within wirePart
  rollback := Wire.rollback.within wirePart
  tableNames := tableNames
  close l := { l with closed := true }
  wraps := true

end CursorLink

end BoundSql
