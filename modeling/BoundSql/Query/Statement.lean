import BoundSql.Condition.Expression
import BoundSql.Query

/-!
# Statements

A query is rendered as one statement of its kind. Values are bound through the binder as their
placeholders are written; columns, tables, operators and fragments are written as they are.
Updates and deletes always carry a condition: where the query has none, one that is never true.
-/

namespace BoundSql

/-- A rendered statement. -/
structure Compiled where
  /-- The text with its placeholders. -/
  sql : String
  /-- The value of each placeholder, in the order of the text. -/
  params : Bindings
  /-- The name of the dialect. -/
  dialect : String
  deriving Repr

namespace Query

/-- The name under which a count is read back. -/
def countName : String := "cnt"

/-- The column that counts. -/
def countColumn : String := "COUNT(*) AS " ++ countName

/-- The table as a select names it: with its label, if it has one. -/
def labelledTable (q : Query) : Except Failure String :=
  if q.label.truthy then do return (← q.table.write) ++ " " ++ (← q.label.write) else q.table.write

/-- A failure unless a table is set. A table with a label is written at once. -/
def requireTable (q : Query) : Except Failure Unit :=
  if !q.table.truthy then .error .noTable
  else if q.label.truthy then q.labelledTable.map fun _ => ()
  else .ok ()

/-- The texts of columns; each must be a text. -/
def columnTexts : List Value → Except Failure (List String)
  | [] => .ok []
  | .text s :: rest => (columnTexts rest).map (s :: ·)
  | _ :: _ => .error .mistyped

/-- Parts separated by commas. -/
def commas (parts : List String) : String := String.intercalate ", " parts

/-- A part with its keyword, or no part when it is empty. -/
def optionalPart (part : String) : List String := if part = "" then [] else [part]

/-- A bound of a select with its keyword, or no part; a bound has at most as many digits as a
numeral may have. -/
def boundPart (keyword : String) : Option Nat → Except Failure (List String)
  | none => .ok []
  | some n =>
    let text := toString n
    if text.length ≤ Text.maxDigits then .ok [keyword ++ " " ++ text] else .error .malformed

/-- The ordering and the bounds of a select. -/
def tailParts (q : Query) : Except Failure (List String) := do
  let limit ← boundPart "LIMIT" q.limit
  let offset ← boundPart "OFFSET" q.offset
  return (if q.orderBy.isEmpty then [] else ["ORDER BY " ++ commas q.orderBy]) ++ limit ++ offset

/-- Render a select of some columns, with or without ordering and bounds. -/
def renderSelect (d : Dialect) (q : Query) (columns : List Value) (withTail : Bool) :
    Attempt Binder String := do
  .ofExcept q.requireTable
  let columns ← .ofExcept (columnTexts columns)
  let table ← .ofExcept q.labelledTable
  let wheres ← Expression.renderClause d "WHERE" q.wheres false
  let groups ← .ofExcept (columnTexts q.groupBy)
  let having ← Expression.renderClause d "HAVING" q.having false
  let tail ← .ofExcept (if withTail then q.tailParts else .ok [])
  let parts :=
    ["SELECT " ++ commas columns, "FROM " ++ table] ++ q.joins.map Join.text ++
      optionalPart wheres ++ (if groups.isEmpty then [] else ["GROUP BY " ++ commas groups]) ++
      optionalPart having ++ tail
  pure (String.intercalate " " parts)

/-- Render the count of a select: of its groups when it forms groups, of its rows otherwise. -/
def renderCount (d : Dialect) (q : Query) : Attempt Binder String := do
  if q.isGrouped then
    let inner ← renderSelect d q q.columns false
    pure ("SELECT " ++ countColumn ++ " FROM (" ++ inner ++ ") AS _sub")
  else renderSelect d q [.text countColumn] false

/-- The placeholders of a row between parentheses. -/
def renderRow (d : Dialect) (values : List Value) : Attempt Binder String := do
  let ps ← Attempt.forAll values (Expression.placeholder d)
  pure ("(" ++ String.intercalate "," ps ++ ")")

/-- The insert of some rows under some columns. -/
def renderRows (d : Dialect) (q : Query) (columns : List Value) (rows : List (List Value)) :
    Attempt Binder String := do
  let rows ← Attempt.forAll rows (renderRow d)
  let table ← .ofExcept q.table.write
  let columns ← .ofExcept (columnTexts columns)
  pure ("INSERT INTO " ++ table ++ " (" ++ String.intercalate "," columns ++ ") VALUES " ++
    commas rows)

/-- Render an insert. -/
def renderInsert (d : Dialect) (q : Query) : Attempt Binder String := do
  .ofExcept q.requireTable
  match q.insert with
  | some (.single (entry :: row)) =>
    renderRows d q (Entries.keys (entry :: row)) [Entries.values (entry :: row)]
  | some (.rows (column :: columns) (row :: rows)) =>
    renderRows d q (column :: columns) (row :: rows)
  | _ => .fail (.noData .insert)

/-- A column with the placeholder of its new value. -/
def renderSet (d : Dialect) (entry : Value × Value) : Attempt Binder String := do
  let column ← .ofExcept entry.1.write
  let p ← Expression.placeholder d entry.2
  pure (column ++ " = " ++ p)

/-- Render an update. -/
def renderUpdate (d : Dialect) (q : Query) : Attempt Binder String := do
  .ofExcept q.requireTable
  if q.update.isEmpty then .fail (.noData .update)
  else do
    let sets ← Attempt.forAll q.update (renderSet d)
    let wheres ← Expression.renderClause d "WHERE" q.wheres true
    let table ← .ofExcept q.table.write
    pure ("UPDATE " ++ table ++ " SET " ++ commas sets ++ " " ++ wheres)

/-- Render a delete. -/
def renderDelete (d : Dialect) (q : Query) : Attempt Binder String := do
  .ofExcept q.requireTable
  let wheres ← Expression.renderClause d "WHERE" q.wheres true
  let table ← .ofExcept q.table.write
  pure ("DELETE FROM " ++ table ++ " " ++ wheres)

/-- Render a query as a statement of its kind. -/
def render (d : Dialect) (q : Query) : Attempt Binder String := do
  .ofExcept q.requireTable
  match q.kind with
  | .select => renderSelect d q q.columns true
  | .insert => renderInsert d q
  | .update => renderUpdate d q
  | .delete => renderDelete d q
  | kind => .fail (.unknownKind kind)

end Query

end BoundSql
