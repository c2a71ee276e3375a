import BoundSql.Condition

/-!
# Queries

A query is what the calls on a builder have asked for so far. Nothing in it is text of a statement
except what callers wrote as such; it is rendered on demand.
-/

namespace BoundSql

/-- How a table is joined. -/
inductive JoinKind where
  | inner | left | right
  deriving DecidableEq, Repr

namespace JoinKind

/-- The name of a join kind. -/
def name : JoinKind → String
  | inner => "INNER"
  | left => "LEFT"
  | right => "RIGHT"

/-- All join kinds by name. -/
def byName : List (String × JoinKind) := [("INNER", inner), ("LEFT", left), ("RIGHT", right)]

end JoinKind

/-- A joined table with its condition. -/
structure Join where
  /-- How the table is joined. -/
  kind : JoinKind
  /-- The table, perhaps with an alias. -/
  table : String
  /-- The left side of the condition. -/
  left : String
  /-- The operator of the condition. -/
  operator : String
  /-- The right side of the condition. -/
  right : String
  deriving DecidableEq, Repr

namespace Join

/-- Make a join from values; every part must be a text and the kind one of the three. -/
def ofValues (kind table left operator right : Value) : Except Record.Report Join :=
  let kind' := Record.oneOf JoinKind.byName kind
  let table' := Record.text table
  let left' := Record.text left
  let operator' := Record.text operator
  let right' := Record.text right
  match kind', table', left', operator', right' with
  | .ok k, .ok t, .ok l, .ok o, .ok r => .ok ⟨k, t, l, o, r⟩
  | _, _, _, _, _ =>
    .error ⟨"JoinSpec",
      Record.issue "kind" kind kind' ++ Record.issue "table" table table' ++
        Record.issue "left" left left' ++ Record.issue "operator" operator operator' ++
        Record.issue "right" right right'⟩

/-- The text of a join. -/
def text (j : Join) : String :=
  j.kind.name ++ " JOIN " ++ j.table ++ " ON " ++ j.left ++ " " ++ j.operator ++ " " ++ j.right

end Join

/-- The data of an insert. -/
inductive InsertData where
  /-- One row given as a map. -/
  | single (row : Row)
  /-- Declared columns and any number of rows with a value for each. -/
  | rows (columns : List Value) (rows : List (List Value))
  deriving Repr

/-- What has been asked of a builder. -/
structure Query where
  /-- The table; null until one is set. -/
  table : Value
  /-- The alias of the table, used by selects. -/
  label : Value
  /-- The kind of statement. -/
  kind : Kind
  /-- The columns of a select. -/
  columns : List Value
  /-- The joined tables. -/
  joins : List Join
  /-- The conditions on rows. -/
  wheres : List Token
  /-- The conditions on groups. -/
  having : List Token
  /-- The grouping columns. -/
  groupBy : List Value
  /-- The ordering expressions with their directions. -/
  orderBy : List String
  /-- The greatest number of rows. -/
  limit : Option Nat
  /-- The number of rows left out in front. -/
  offset : Option Nat
  /-- The data of an insert. -/
  insert : Option InsertData
  /-- The columns an update sets. -/
  update : Row
  deriving Repr

namespace Query

/-- The query nothing has been asked of: a select of everything without a table. -/
def fresh : Query :=
  { table := .null, label := .null, kind := .select, columns := [.text "*"], joins := [],
    wheres := [], having := [], groupBy := [], orderBy := [], limit := none, offset := none,
    insert := none, update := [] }

/-- Whether the select forms groups. -/
def isGrouped (q : Query) : Bool := !q.groupBy.isEmpty || !q.having.isEmpty

end Query

end BoundSql
