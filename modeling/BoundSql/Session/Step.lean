import BoundSql.Session

/-!
# Steps

A session is driven by a script: a list of steps, each a call with its arguments. Some calls run
other steps inside them, a group of conditions or a transaction for instance, so scripts nest.
-/

namespace BoundSql

/-- Which of a builder's condition lists. -/
inductive ConditionList where
  | wheres | having
  deriving DecidableEq, Repr

/-- Calls that need a builder. -/
inductive BuilderCall where
  | toSql | compile | compileCount | bindings | dump
  | get | first
  | value (column : Value)
  | count | execute | insertGetId | lastInsertId | countTotal
  | paginate (page perPage : Option Value)
  | run
  | snapshot (name : String)
  | restore (name : String)
  | setKind (kind : Kind)
  | push (list : ConditionList) (token : Token)
  deriving Repr

/-- Calls on the statement obtained last. -/
inductive StatementCall where
  | bind (name : String) (value : Value)
  | execute | fetch | fetchAll | rowCount
  deriving Repr

/-- Calls on the connection. -/
inductive ConnectionCall where
  | prepare (sql : String)
  | begin | commit | rollback | inTransaction | lastInsertId | close | wraps
  deriving Repr

/-- Calls on the database as a whole. -/
inductive DatabaseCall where
  | query (register : String)
  | table (register : String) (name : Value) (label : Option Value)
  | lastInsertId | settings | connection
  | hasTable (name : Value)
  | tables | preload | invalidate
  | setTables (entries : List Value)
  deriving Repr

/-- A call that runs no other steps. -/
inductive Action where
  | clause (call : Clause)
  | builder (call : BuilderCall)
  | statement (call : StatementCall)
  | connection (call : ConnectionCall)
  | database (call : DatabaseCall)
  /-- Fail with an error of no driver. -/
  | raise (message : String)
  deriving Repr

/-- A call that runs steps inside it. -/
inductive Block where
  /-- The steps add conditions to a group. -/
  | group (connector : Option Value)
  /-- The steps run in a transaction. -/
  | transaction
  /-- The steps run on a builder that is put back afterwards. -/
  | preserve
  /-- The steps run in a transaction on a new builder. -/
  | newTransaction (register : String)
  deriving Repr

/-- Where a step acts and whether its failure is caught. -/
structure Site where
  /-- The register of the builder; the present receiver when there is none. -/
  register : Option String
  /-- Whether the steps after it run even if it fails. -/
  caught : Bool
  /-- Whether it acts on the handle of a group of that builder, obtained before. -/
  handle : Bool
  deriving Repr

/-- A step of a script. -/
inductive Step where
  | plain (site : Site) (action : Action)
  | block (site : Site) (block : Block) (body : List Step)

namespace Step

/-- Where a step acts and whether its failure is caught. -/
def site : Step → Site
  | plain site _ | block site _ _ => site

end Step

/-- The table names a call answers with. -/
inductive TableAnswer where
  | nothing
  | found (is : Bool)
  | names (sorted : List String)
  deriving Repr

/-- What a call answers. -/
inductive Answer where
  /-- Nothing. -/
  | done
  /-- The receiver, shown when the session is traced. -/
  | receiver (shown : Option Builder)
  | builder (b : Builder)
  | text (s : String)
  | compiled (c : Compiled)
  | bindings (b : Bindings)
  | rows (rows : List Row)
  | row (r : Option Row)
  | value (v : Value)
  | number (i : Int)
  | page (p : Page)
  | statement
  | snapshot (s : Snapshot)
  | settings (s : Settings)
  | truth (b : Bool)
  | closed
  | tables (answer : TableAnswer) (loaded : Bool) (fetches : Nat)
  deriving Repr

/-- What a step came to: its outcome, and what the steps inside it came to if they were run. -/
inductive Entry where
  | mk (outcome : Except Failure Answer) (inner : Option (List Entry))

namespace Entry

/-- The answer or the failure of a step. -/
def outcome : Entry → Except Failure Answer
  | mk outcome _ => outcome

/-- What the steps inside it came to. -/
def inner : Entry → Option (List Entry)
  | mk _ inner => inner

end Entry

end BoundSql
