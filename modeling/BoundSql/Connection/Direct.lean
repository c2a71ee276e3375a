import BoundSql.Connection
import BoundSql.Connection.Wire

/-!
# Direct connections

A database that offers the calls of a connection itself. Each prepared statement takes the next
list of rows from the script.
-/

namespace BoundSql

/-- A database with the calls of a connection. -/
structure Direct where
  /-- The far end. -/
  wire : Wire
  /-- The rows of the statements still to be prepared. -/
  results : List (List Row)
  /-- The number of changed rows that every statement reports. -/
  affected : Value
  /-- The identifier of the row inserted last. -/
  insertId : Value

namespace Direct

/-- A prepared statement: its text and the rows not yet read. -/
structure Statement where
  /-- The text. -/
  sql : String
  /-- The rows left. -/
  rows : List Row

/-- The far end inside the database. -/
def wirePart : Part Direct Wire := ⟨wire, fun wire d => { d with wire }⟩

/-- The far end beside a statement. -/
def farEnd : Part (Statement × Direct) Wire := wirePart.ofSecond

/-- Take the next list of rows. -/
def prepare (sql : String) : Attempt Direct Statement := do
  (Wire.call "prepare" [.text sql]).within wirePart
  let d ← .state
  .update fun d => { d with results := d.results.drop 1 }
  pure ⟨sql, d.results.headD []⟩

/-- Run the statement. -/
def execute : Attempt (Statement × Direct) Unit := do
  (Wire.call "execute" []).within farEnd
  .update fun s => (s.1, { s.2 with wire := s.2.wire.ran s.1.sql })

/-- Take the next row. -/
def fetch : Attempt (Statement × Direct) (Option Row) := do
  (Wire.call "fetch" []).within farEnd
  let (statement, _) ← .state
  .update fun s => ({ s.1 with rows := s.1.rows.drop 1 }, s.2)
  pure statement.rows.head?

/-- Take all rows that are left. -/
def fetchAll : Attempt (Statement × Direct) (List Row) := do
  (Wire.call "fetch_all" []).within farEnd
  let (statement, _) ← .state
  .update fun s => ({ s.1 with rows := [] }, s.2)
  pure statement.rows

instance : Connection Direct where
  Statement := Statement
  prepare := prepare
  bind name value := (Wire.call "bind" [.text name, value]).within farEnd
  execute := execute
  fetch := fetch
  fetchAll := fetchAll
  rowCount := do
    (Wire.call "row_count" []).within farEnd
    let (_, d) ← .state
    pure d.affected
  lastInsertId := do
    (Wire.call "last_insert_id" []).within wirePart
    let d ← .state
    pure d.insertId
  inTransaction d := d.wire.inTransaction
  begin := (Wire.signal "begin" Wire.opened).within wirePart
  commit := (Wire.signal "commit" Wire.committed).within wirePart
  rollback := (Wire.signal "rollback" Wire.rolledBack).within wirePart
  tableNames := pure []
  close d := d
  wraps := false

end Direct

end BoundSql
