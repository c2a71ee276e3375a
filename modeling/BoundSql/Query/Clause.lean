import BoundSql.Attempt
import BoundSql.Query
import BoundSql.Value.Number

/-!
# Calls that build a query

Each call changes one clause of a query. A call whose argument cannot be used fails, and what it
changed before it looked at that argument stays changed: the kind is switched before the data is
read.
-/

namespace BoundSql

/-- A call on a builder that adds to its query; an omitted argument is `none`. -/
inductive Clause where
  | table (name : Value) (label : Option Value)
  | select (columns : Option Value)
  | insert (data : Value)
  | insertColumns (columns : Value)
  | values (row : Value)
  | insertRow (row : Value)
  | update (data : Value)
  | delete
  | join (table left operator right : Value) (kind : Option Value)
  | having (column operator value : Value) (connector : Option Value)
  | groupBy (columns : List Value)
  | orderBy (expression : Value) (direction : Option Value)
  | limit (count : Value)
  | offset (count : Value)
  | condition (call : ConditionCall)
  deriving Repr

namespace Query

/-- The columns that an argument names; a text names one. -/
def columnsOf : Value → Except Failure (List Value)
  | .text s => .ok [.text s]
  | v =>
    match v.items? with
    | some items => .ok items
    | none => .error .mistyped

/-- The items of an argument that must be a sequence. -/
def itemsOf (v : Value) : Except Failure (List Value) :=
  match v.items? with
  | some items => .ok items
  | none => .error .mistyped

/-- The pair written by an item that lists a key and a value. -/
def pairOf (item : Value) : Except Failure (Value × Value) :=
  match item.items? with
  | none => .error .mistyped
  | some [key, value] => if key.isKey then .ok (key, value) else .error .mistyped
  | some _ => .error .malformed

/-- The map that an argument stands for: a map, or a sequence of pairs. -/
def mapOf : Value → Except Failure Row
  | .map entries => .ok entries
  | v =>
    match v.items? with
    | none => .error .mistyped
    | some items => (items.mapM pairOf).map Value.mapOf

/-- Start an insert of one row, or of rows under the named columns. -/
def startInsert (data : Value) : Attempt Query Unit := do
  .update fun q => { q with kind := .insert }
  match data with
  | .map entries => .update fun q => { q with insert := some (.single entries) }
  | v => do
    let columns ← .ofExcept (columnsOf v)
    .update fun q => { q with insert := some (.rows columns []) }

/-- Start an insert of rows under the listed columns. -/
def startColumns (columns : Value) : Attempt Query Unit := do
  .update fun q => { q with kind := .insert }
  let columns ← .ofExcept (itemsOf columns)
  .update fun q => { q with insert := some (.rows columns []) }

/-- The columns and rows of an insert that is under way with declared columns. -/
def openRows (q : Query) : Option (List Value × List (List Value)) :=
  match q.kind, q.insert with
  | .insert, some (.rows columns rows) => some (columns, rows)
  | _, _ => none

/-- Add a row given as a sequence, which must be as long as the declared columns. -/
def addValues (row : Value) : Attempt Query Unit := do
  match openRows (← .state) with
  | some (column :: columns, rows) => do
    let declared := column :: columns
    let values ← .ofExcept (itemsOf row)
    if values.length = declared.length then
      .update fun q => { q with insert := some (.rows declared (rows ++ [values])) }
    else .fail (.rowLength declared.length values.length)
  | _ =>
    match row.size? with
    | none => .fail .mistyped
    | some n => .fail (.noColumns n)

/-- Whether one list of characters stands somewhere in another. -/
def occursIn (part : List Char) : List Char → Bool
  | [] => part.isEmpty
  | c :: rest => part.isPrefixOf (c :: rest) || occursIn part rest

/-- Whether a row has a column; what is no row has none, and asking it is an error. -/
def hasColumn (row column : Value) : Except Failure Bool :=
  match row with
  | .map entries =>
    if column.isKey then .ok (Entries.has Value.sameKey column entries) else .error .mistyped
  | .list items => .ok (items.any (Value.same column ·))
  | .text s =>
    match column with
    | .text part => .ok (occursIn part.toList s.toList)
    | _ => .error .mistyped
  | _ => .error .mistyped

/-- The item at an index of a list; a negative index counts from the end. -/
def itemAt (items : List Value) (index : Int) : Except Failure Value :=
  let place := if index < 0 then index + items.length else index
  if place < 0 then .error .absentIndex
  else
    match items[place.toNat]? with
    | some v => .ok v
    | none => .error .absentIndex

/-- The value of a row in a column. -/
def cell (row column : Value) : Except Failure Value :=
  match row with
  | .map entries =>
    match Entries.find? Value.sameKey column entries with
    | some v => .ok v
    | none => .error .absentKey
  | .list items =>
    match column with
    | .int i => itemAt items i
    | .bool b => itemAt items b.toNat
    | _ => .error .mistyped
  | _ => .error .mistyped

/-- The cells of a row in its own columns, in their order. -/
def ownCells : Value → Except Failure (List Value)
  | .map entries => .ok (Entries.values entries)
  | row => do (← itemsOf row).mapM (cell row)

/-- Fail for the first of some columns that a row lacks. -/
def requireColumns (row : Value) (declared : List Value) : List Value → Except Failure Unit
  | [] => .ok ()
  | column :: rest => do
    if ← hasColumn row column then requireColumns row declared rest
    else .error (.naming column (.missingColumn column declared))

/-- The cells of a row in declared columns, all of which it must have. -/
def matchedCells (columns : List Value) (row : Value) : Except Failure (List Value) := do
  requireColumns row columns columns
  columns.mapM (cell row)

/-- Add a row given as a map. The first row declares the columns; later rows are matched by name. -/
def addRow (row : Value) : Attempt Query Unit := do
  match openRows (← .state) with
  | some (column :: columns, rows) => do
    let cells ← .ofExcept (matchedCells (column :: columns) row)
    .update fun q => { q with insert := some (.rows (column :: columns) (rows ++ [cells])) }
  | some ([], rows) => do
    let columns ← .ofExcept (itemsOf row)
    .update fun q => { q with insert := some (.rows columns rows) }
    let cells ← .ofExcept (ownCells row)
    .update fun q => { q with insert := some (.rows columns (rows ++ [cells])) }
  | none => do
    let columns ← .ofExcept (itemsOf row)
    let cells ← .ofExcept (ownCells row)
    .update fun q => { q with kind := .insert, insert := some (.rows columns [cells]) }

/-- Start an update of the given columns. -/
def startUpdate (data : Value) : Attempt Query Unit := do
  .update fun q => { q with kind := .update }
  let entries ← .ofExcept (mapOf data)
  .update fun q => { q with update := entries }

/-- Join a table; the kind is an inner join when it is omitted, and its case is ignored. -/
def addJoin (table left operator right : Value) (kind : Option Value) : Attempt Query Unit := do
  match kind.getD (.text JoinKind.inner.name) with
  | .text kind =>
    match Join.ofValues (.text (Text.capitals kind)) table left operator right with
    | .ok j => .update fun q => { q with joins := q.joins ++ [j] }
    | .error report => .fail (.invalid report)
  | _ => .fail .absentCall

/-- An ordering expression with its direction: descending if so asked, ascending otherwise. -/
def ordering (expression : Value) (direction : Option Value) : Except Failure String :=
  match direction.getD (.text "ASC") with
  | .text s =>
    let word := if Text.capitals (Text.trim s) = "DESC" then "DESC" else "ASC"
    expression.write.map (· ++ " " ++ word)
  | _ => .error .absentCall

/-- A number of rows: an integer, and zero when it is negative. -/
def countOf (v : Value) : Except Failure Nat := do return (← v.toInteger).toNat

/-- Add grouping columns, argument by argument. -/
def addGroupBy : List Value → Attempt Query Unit
  | [] => pure ()
  | v :: rest => do
    let columns ← .ofExcept (columnsOf v)
    .update fun q => { q with groupBy := q.groupBy ++ columns }
    addGroupBy rest

end Query

namespace Clause

/-- The effect of a call on the query. -/
def apply : Clause → Attempt Query Unit
  | table name label => .update fun q => { q with table := name, label := label.getD .null }
  | select columns => do
    .update fun q => { q with kind := .select }
    let columns ← .ofExcept (Query.columnsOf (columns.getD (.text "*")))
    .update fun q => { q with columns }
  | insert data => Query.startInsert data
  | insertColumns columns => Query.startColumns columns
  | values row => Query.addValues row
  | insertRow row => Query.addRow row
  | update data => Query.startUpdate data
  | delete => .update fun q => { q with kind := .delete }
  | join other left operator right kind => Query.addJoin other left operator right kind
  | having column operator value connector => do
    let connector ← .ofExcept (Connector.ofArgument connector)
    let token := .test connector (.compare column operator value)
    .update fun q => { q with having := q.having ++ [token] }
  | groupBy columns => Query.addGroupBy columns
  | orderBy expression direction => do
    let entry ← .ofExcept (Query.ordering expression direction)
    .update fun q => { q with orderBy := q.orderBy ++ [entry] }
  | limit count => do
    let n ← .ofExcept (Query.countOf count)
    .update fun q => { q with limit := some n }
  | offset count => do
    let n ← .ofExcept (Query.countOf count)
    .update fun q => { q with offset := some n }
  | condition call => do
    .update fun q => { q with wheres := q.wheres ++ call.added.1 }
    .ofExcept call.added.2

end Clause

end BoundSql
