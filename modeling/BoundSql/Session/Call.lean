import BoundSql.Session.Step

/-!
# Calls by name

Scripts name a call and list its arguments, by position or by parameter name. Reading a call finds
the arguments of its parameters; a parameter without an argument keeps its default, so an argument
that is given as null and one that is left out stay apart.
-/

namespace BoundSql

/-- A call as a script writes it. -/
structure Call where
  /-- The name of the call. -/
  name : String
  /-- The arguments given by position. -/
  args : List Value
  /-- The arguments given by parameter name. -/
  named : Entries String Value
  deriving Repr

namespace Call

/-- The argument of a parameter, by position or by name. -/
def arg? (c : Call) (position : Nat) (parameter : String) : Option Value :=
  c.args[position]?.orElse fun _ => Entries.find? (· == ·) parameter c.named

/-- The connector of the calls whose name begins with `or`. -/
def orWord : Option Value := some (.text Connector.or.text)

/-- The negation of the calls whose name says not. -/
def negation : Option Value := some (.bool true)

/-- Read a call that adds a condition. -/
def condition? (c : Call) : Option ConditionCall := do
  let first ← (c.arg? 0 "column").orElse fun _ => c.arg? 0 "sql"
  let operator := c.arg? 1 "op_or_value"
  let value := c.arg? 2 "value"
  match c.name with
  | "where" => some (.compare first operator value (c.arg? 3 "connector"))
  | "or_where" => some (.compare first operator value orWord)
  | "where_in" =>
    some (.oneOf first (← c.arg? 1 "values") (c.arg? 2 "connector") (c.arg? 3 "negated"))
  | "where_not_in" => some (.oneOf first (← c.arg? 1 "values") (c.arg? 2 "connector") negation)
  | "or_where_in" => some (.oneOf first (← c.arg? 1 "values") orWord none)
  | "or_where_not_in" => some (.oneOf first (← c.arg? 1 "values") orWord negation)
  | "where_null" => some (.isNull first (c.arg? 1 "connector") (c.arg? 2 "negated"))
  | "where_not_null" => some (.isNull first (c.arg? 1 "connector") negation)
  | "or_where_null" => some (.isNull first orWord none)
  | "or_where_not_null" => some (.isNull first orWord negation)
  | "where_like" =>
    some (.like first (← c.arg? 1 "pattern") (c.arg? 2 "connector") (c.arg? 3 "negated"))
  | "where_not_like" => some (.like first (← c.arg? 1 "pattern") (c.arg? 2 "connector") negation)
  | "or_where_like" => some (.like first (← c.arg? 1 "pattern") orWord none)
  | "where_raw" => some (.raw first (c.arg? 1 "connector"))
  | "or_where_raw" => some (.raw first orWord)
  | _ => none

/-- Read a call that joins a table; the kind is the one its name says, or an argument. -/
def join? (c : Call) (kind : Option Value) : Option Clause := do
  some (.join (← c.arg? 0 "table") (← c.arg? 1 "left") (← c.arg? 2 "op") (← c.arg? 3 "right") kind)

/-- Read a call that adds a condition on groups. -/
def having? (c : Call) (connector : Option Value) : Option Clause := do
  some (.having (← c.arg? 0 "column") (← c.arg? 1 "op") (← c.arg? 2 "value") connector)

/-- Read a call that builds a query. -/
def clause? (c : Call) : Option Clause :=
  match c.name with
  | "table" => do some (.table (← c.arg? 0 "name") (c.arg? 1 "alias"))
  | "select" => some (.select (c.arg? 0 "columns"))
  | "insert" => do some (.insert (← c.arg? 0 "data"))
  | "insert_columns" => do some (.insertColumns (← c.arg? 0 "columns"))
  | "values" => do some (.values (← c.arg? 0 "row"))
  | "insert_row" => do some (.insertRow (← c.arg? 0 "row"))
  | "update" => do some (.update (← c.arg? 0 "data"))
  | "delete" => some .delete
  | "join" => c.join? (c.arg? 4 "kind")
  | "left_join" => c.join? (some (.text JoinKind.left.name))
  | "right_join" => c.join? (some (.text JoinKind.right.name))
  | "having" => c.having? (c.arg? 3 "connector")
  | "or_having" => c.having? orWord
  | "group_by" => some (.groupBy c.args)
  | "order_by" => do some (.orderBy (← c.arg? 0 "expr") (c.arg? 1 "direction"))
  | "limit" => do some (.limit (← c.arg? 0 "n"))
  | "offset" => do some (.offset (← c.arg? 0 "n"))
  | _ => c.condition?.map .condition

/-- Read a call that needs a builder. -/
def builder? (c : Call) (token : Option Token) : Option BuilderCall :=
  match c.name with
  | "to_sql" => some .toSql
  | "compile" => some .compile
  | "compile_count" => some .compileCount
  | "get_bindings" => some .bindings
  | "state" => some .dump
  | "get" => some .get
  | "first" => some .first
  | "value" => do some (.value (← c.arg? 0 "column"))
  | "count" => some .count
  | "execute" => some .execute
  | "insert_get_id" => some .insertGetId
  | "last_insert_id" => some .lastInsertId
  | "count_total" => some .countTotal
  | "paginate" => some (.paginate (c.arg? 0 "page") (c.arg? 1 "per_page"))
  | "run" => some .run
  | "snapshot" => do some (.snapshot (← (← c.arg? 0 "key").text?))
  | "restore" => do some (.restore (← (← c.arg? 0 "key").text?))
  | "set_kind" =>
    match c.arg? 0 "kind" with
    | some .null => some (.setKind .unset)
    | some (.text name) => some (.setKind (.unknown name))
    | _ => none
  | "push" => do
    match ← c.arg? 0 "list" with
    | .text "wheres" => some (.push .wheres (← token))
    | .text "having" => some (.push .having (← token))
    | _ => none
  | _ => none

/-- Read a call on the statement obtained last. -/
def statement? (c : Call) : Option StatementCall :=
  match c.name with
  | "stmt_bind" => do some (.bind (← (← c.arg? 0 "name").text?) (← c.arg? 1 "value"))
  | "stmt_execute" => some .execute
  | "stmt_fetch" => some .fetch
  | "stmt_fetch_all" => some .fetchAll
  | "stmt_row_count" => some .rowCount
  | _ => none

/-- Read a call on the connection. -/
def connection? (c : Call) : Option ConnectionCall :=
  match c.name with
  | "conn_prepare" => do some (.prepare (← (← c.arg? 0 "sql").text?))
  | "conn_begin" => some .begin
  | "conn_commit" => some .commit
  | "conn_rollback" => some .rollback
  | "conn_in_transaction" => some .inTransaction
  | "conn_last_insert_id" => some .lastInsertId
  | "conn_close" => some .close
  | "conn_raw" => some .wraps
  | _ => none

/-- Read a call on the database; builders it makes go into a register. -/
def database? (c : Call) (register : Option String) : Option DatabaseCall :=
  match c.name with
  | "db_query" => do some (.query (← register))
  | "db_table" => do some (.table (← register) (← c.arg? 0 "name") (c.arg? 1 "alias"))
  | "db_last_insert_id" => some .lastInsertId
  | "db_config" => some .settings
  | "db_connection" => some .connection
  | "db_has_table" => do some (.hasTable (← c.arg? 0 "name"))
  | "db_tables" => some .tables
  | "db_preload" => some .preload
  | "db_invalidate" => some .invalidate
  | "db_set_tables" => do
    match ← c.arg? 0 "tables" with
    | .list entries => some (.setTables entries)
    | _ => none
  | _ => none

/-- Read a call that runs no other steps. -/
def action? (c : Call) (token : Option Token) (register : Option String) : Option Action :=
  if c.name = "raise" then
    (c.arg? 0 "message").bind fun v => v.text?.map .raise
  else
    (c.clause?.map .clause).orElse fun _ =>
    ((c.builder? token).map .builder).orElse fun _ =>
    (c.statement?.map .statement).orElse fun _ =>
    (c.connection?.map .connection).orElse fun _ =>
    (c.database? register).map .database

/-- The connector of the group that a call opens. -/
def groupConnector (c : Call) : Option Value :=
  if c.name = "or_where" then orWord else c.arg? 3 "connector"

/-- The register of the builder that a transaction makes when none is named. -/
def transactionRegister : String := "tx"

/-- Read a call that runs steps inside it; `grouped` says that the steps stand as its first
argument. -/
def block? (c : Call) (grouped : Bool) (register : Option String) : Option Block :=
  match c.name, grouped with
  | "where", true | "or_where", true => some (.group c.groupConnector)
  | "transactional", false => some .transaction
  | "preserve", false => some .preserve
  | "db_transactional", false => some (.newTransaction (register.getD transactionRegister))
  | _, _ => none

end Call

end BoundSql
