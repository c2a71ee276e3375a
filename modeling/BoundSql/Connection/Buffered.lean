import BoundSql.Connection
import BoundSql.Connection.Adapter
import BoundSql.Text.Word

/-!
# Buffered connections

An adapter for a driver that opens a transaction before any statement and hands out a whole
result. The rows are read while the statement runs and kept, so reading them later does not touch
the driver.
-/

namespace BoundSql

/-- The identifier of the inserted row as a result knows it. -/
inductive InsertedId where
  | known (value : Value)
  /-- Asking for it is an error of the driver. -/
  | unavailable
  deriving Repr

/-- What the driver does when it runs a statement. -/
structure BufferedOutcome where
  /-- Whether it opens a transaction. -/
  opens : Bool
  /-- The error it raises then, if any. -/
  fault : Option DriverFault
  /-- The number of changed rows. -/
  rowCount : Value
  /-- The identifier of the inserted row. -/
  insertedId : InsertedId
  /-- The column names, if the statement returns rows. -/
  columns : Option (List Value)
  /-- The cells of each row. -/
  rows : List (List Value)
  /-- The error it raises while the rows are read, if any. -/
  readFault : Option DriverFault
  deriving Repr

namespace BufferedOutcome

/-- The outcome of a statement the script says nothing about. -/
def empty : BufferedOutcome := ⟨true, none, .int (-1), .known .null, none, [], none⟩

/-- The text of the identifier of the inserted row; zero when there is none. -/
def insertedIdText (o : BufferedOutcome) : Except Failure String :=
  match o.insertedId with
  | .known .null | .unavailable => .ok "0"
  | .known v => v.write

/-- The rows of a result by column name; none are read when it returns no rows. -/
def namedRows (o : BufferedOutcome) : Except Failure (List Row) :=
  match o.columns with
  | none => .ok []
  | some columns =>
    match o.readFault with
    | some fault => .error (.driver fault)
    | none => .ok (o.rows.map fun cells => Value.mapOf (columns.zip cells))

end BufferedOutcome

/-- An adapter over a buffering driver. -/
structure BufferedLink where
  /-- The far end. -/
  wire : Wire
  /-- What the statements still to come do. -/
  script : List BufferedOutcome
  /-- Whether the connection is closed. -/
  closed : Bool
  /-- Whether the adapter holds a transaction that it began. -/
  holdsTransaction : Bool
  /-- The identifier of the row inserted last. -/
  insertId : String
  /-- The names of the tables that inspection finds. -/
  tables : List Value
  /-- The part of the database that is inspected. -/
  schema : Value
  /-- Whether inspection opens a transaction. -/
  inspectionOpens : Bool
  /-- The errors that the inspections still to come raise then, if any. -/
  inspectionFaults : List (Option DriverFault)

namespace BufferedLink

/-- A prepared statement: its text, its bindings and its last result. -/
structure Statement where
  /-- The text. -/
  sql : String
  /-- The values bound by name. -/
  params : Bindings
  /-- The rows of the last result; none before there is a result. -/
  rows : Option (List Row)
  /-- How many of the rows have been handed out. -/
  position : Nat
  /-- The number of changed rows. -/
  rowCount : Value

namespace Statement

/-- A statement that has not run. -/
def fresh (sql : String) : Statement := ⟨sql, [], none, 0, .int (-1)⟩

/-- Whether a character can stand in the name of a placeholder. -/
def isNameChar (c : Char) : Bool := Text.isWord c || c == '$'

/-- A text without the backslashes that keep a colon from starting a placeholder. A backslash stays
where another colon follows the name, perhaps empty, after its colon. -/
def unescaped : List Char → List Char
  | [] => []
  | c :: rest =>
    let named := rest.head? == some ':' && ((rest.drop 1).dropWhile isNameChar).head? != some ':'
    if c = '\\' && named then unescaped rest else c :: unescaped rest

/-- The text as the driver reads it. -/
def plainSql (s : Statement) : String := String.ofList (unescaped s.sql.toList)

/-- The rows of the last result; asking before there is one is a failure. -/
def result (s : Statement) : Except Failure (List Row) :=
  match s.rows with
  | some rows => .ok rows
  | none => .error (.notExecuted s.plainSql)

end Statement

/-- The far end of the adapter. -/
def wirePart : Part BufferedLink Wire := ⟨wire, fun wire l => { l with wire }⟩

/-- The statement beside the adapter. -/
def statementPart : Part (Statement × BufferedLink) Statement :=
  ⟨Prod.fst, fun statement s => (statement, s.2)⟩

/-- The error of beginning a transaction inside another. -/
def nestedFault : DriverFault := ⟨.invalidRequest, "a transaction is already begun"⟩

/-- A call to the driver. -/
def call (name : String) (args : List Value) : Attempt BufferedLink Unit :=
  (Wire.call name args).within wirePart

/-- A prepared statement; there is none on a closed connection. -/
def prepare (sql : String) : Attempt BufferedLink Statement := do
  if (← .state).closed then .fail (.connectionClosed sql) else pure (.fresh sql)

/-- The driver runs a statement as the script says. -/
def perform (statement : Statement) : Attempt BufferedLink BufferedOutcome := do
  call "raw.execute" (Adapter.arguments statement.sql statement.params)
  let outcome := (← .state).script.headD .empty
  .update fun l => { l with script := l.script.drop 1 }
  (Wire.perform outcome.opens outcome.fault statement.sql).within wirePart
  pure outcome

/-- Keep the result of a statement. Its rows are read last, and are kept if they all are. -/
def keep (outcome : BufferedOutcome) : Attempt (Statement × BufferedLink) (List Row) := do
  .update fun s => ({ s.1 with rowCount := outcome.rowCount }, s.2)
  let insertId ← .ofExcept outcome.insertedIdText
  .update fun s => (s.1, { s.2 with insertId })
  let rows ← .ofExcept outcome.namedRows
  .update fun s => ({ s.1 with rows := some rows, position := 0 }, s.2)
  pure rows

/-- The driver runs a statement, and its result is kept. -/
def serve : Attempt (Statement × BufferedLink) (List Row) := do
  let (statement, _) ← .state
  keep (← (perform statement).within .second)

/-- Whether a failure is an error of the driver's own classes. -/
def isOwnFault : Failure → Bool := Failure.isFaultOf FaultClass.ofBufferedDriver

/-- Run a statement, keep its result, and end the transaction the driver opened for it, unless one
was open before. -/
def execute : Attempt (Statement × BufferedLink) Unit :=
  Adapter.execute wirePart.ofSecond isOwnFault serve

/-- Hand out the next row. -/
def fetch : Attempt Statement (Option Row) := do
  let s ← .state
  let rows ← .ofExcept s.result
  match rows[s.position]? with
  | none => pure none
  | some row => do
    .update fun s => { s with position := s.position + 1 }
    pure (some row)

/-- Hand out all rows that are left. -/
def fetchAll : Attempt Statement (List Row) := do
  let s ← .state
  let rows ← .ofExcept s.result
  .update fun s => { s with position := rows.length }
  pure (rows.drop s.position)

/-- The number of changed rows of the last result. -/
def rowCount : Attempt Statement Value := do
  let s ← .state
  let _ ← .ofExcept s.result
  pure s.rowCount

/-- Begin a transaction and hold it. -/
def begin : Attempt BufferedLink Unit := do
  call "raw.begin" []
  Adapter.begin wirePart nestedFault
  .update fun l => { l with holdsTransaction := true }

/-- End the transaction: the one that is held, which is given up first, or else the driver's own. -/
def finish (held own : String) (effect : Wire → Wire) : Attempt BufferedLink Unit := do
  let name := if (← .state).holdsTransaction then held else own
  .update fun l => { l with holdsTransaction := false }
  (Wire.signal name effect).within wirePart

/-- The queries for the names of the tables: the next error of inspection, if any, or the names. -/
def queryTables : Attempt BufferedLink (List Value) := do
  let fault := (← .state).inspectionFaults.headD none
  .update fun l => { l with inspectionFaults := l.inspectionFaults.drop 1 }
  match fault with
  | some fault => .fail (.driver fault)
  | none => return (← .state).tables

/-- Ask the driver for the names of the tables. Its queries may open a transaction before they
fail. -/
def tableNames : Attempt BufferedLink (List Value) := do
  call "inspect" [(← .state).schema]
  if (← .state).inspectionOpens then (Attempt.update Wire.opened).within wirePart
  queryTables

instance : Connection BufferedLink where
  Statement := Statement
  prepare := prepare
  bind name value := .update fun s =>
    ({ s.1 with params := Adapter.bound name value s.1.params }, s.2)
  execute := execute
  fetch := fetch.within statementPart
  fetchAll := fetchAll.within statementPart
  rowCount := rowCount.within statementPart
  lastInsertId := do return .text (← .state).insertId
  inTransaction l := l.wire.inTransaction
  begin := begin
  commit := finish "tx.commit" "raw.commit" Wire.committed
  rollback := finish "tx.rollback" "raw.rollback" Wire.rolledBack
  tableNames := tableNames
  close l := { l with closed := true }
  wraps := true

end BufferedLink

end BoundSql
