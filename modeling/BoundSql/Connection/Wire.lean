import BoundSql.Attempt

/-!
# Wires

The far end of every connection here follows a script. A wire records each call that arrives,
raises the errors planned for it, and keeps the transaction flag. Beside the flag it keeps the
books of a database: the statements whose effects last and those that wait for the end of the open
transaction.
-/

namespace BoundSql

/-- A call that arrived, with its arguments. -/
structure WireCall where
  /-- The name of the call. -/
  name : String
  /-- Its arguments. -/
  args : List Value
  deriving Repr

/-- An error that some calls of one name raise. -/
structure PlannedFault where
  /-- The name of the calls. -/
  name : String
  /-- Which of them raise it, counted from one. -/
  numbers : List Int
  /-- The error. -/
  fault : DriverFault
  deriving Repr

/-- The statements that ran, by whether their effects last. -/
structure Ledger where
  /-- Those of the open transaction. -/
  pending : List String
  /-- Those whose effects last. -/
  committed : List String
  deriving DecidableEq, Repr

/-- The far end of a connection. -/
structure Wire where
  /-- Whether a transaction is open. -/
  inTransaction : Bool
  /-- The errors to raise. -/
  plan : List PlannedFault
  /-- The calls so far, oldest first. -/
  calls : List WireCall
  /-- What the database holds. -/
  ledger : Ledger
  deriving Repr

namespace Wire

/-- A wire on which nothing has been called. -/
def fresh (inTransaction : Bool) (plan : List PlannedFault) : Wire :=
  ⟨inTransaction, plan, [], ⟨[], []⟩⟩

/-- The number of calls of one name so far. -/
def countCalls (w : Wire) (name : String) : Nat := w.calls.countP fun c => c.name == name

/-- The error planned for the latest call of a name. -/
def plannedFault? (w : Wire) (name : String) : Option DriverFault :=
  let number : Int := w.countCalls name
  (w.plan.find? fun p => p.name == name && p.numbers.contains number).map (·.fault)

/-- A call arrives: it is recorded, then it may raise the error planned for it. -/
def call (name : String) (args : List Value) : Attempt Wire Unit := do
  .update fun w => { w with calls := w.calls ++ [⟨name, args⟩] }
  match (← .state).plannedFault? name with
  | some fault => .fail (.driver fault)
  | none => pure ()

/-- A transaction opens, if none is open. -/
def opened (w : Wire) : Wire := { w with inTransaction := true }

/-- A statement took effect: for good outside a transaction, until its end inside one. -/
def ran (sql : String) (w : Wire) : Wire :=
  if w.inTransaction then
    { w with ledger := { w.ledger with pending := w.ledger.pending ++ [sql] } }
  else
    { w with ledger := { w.ledger with committed := w.ledger.committed ++ [sql] } }

/-- The transaction ends and its statements last. -/
def committed (w : Wire) : Wire :=
  { w with
    inTransaction := false
    ledger := ⟨[], w.ledger.committed ++ w.ledger.pending⟩ }

/-- The transaction ends and its statements are undone. -/
def rolledBack (w : Wire) : Wire :=
  { w with inTransaction := false, ledger := ⟨[], w.ledger.committed⟩ }

/-- The driver runs a statement as a script says: it may open a transaction, then it may raise. -/
def perform (opens : Bool) (fault : Option DriverFault) (sql : String) : Attempt Wire Unit := do
  if opens then .update opened
  match fault with
  | some fault => .fail (.driver fault)
  | none => .update (ran sql)

/-- A call that changes the wire once it has passed. -/
def signal (name : String) (effect : Wire → Wire) : Attempt Wire Unit := do
  call name []
  .update effect

/-- Make the changes of the driver's transaction last. -/
def commit : Attempt Wire Unit := signal "raw.commit" committed

/-- Undo the changes of the driver's transaction. -/
def rollback : Attempt Wire Unit := signal "raw.rollback" rolledBack

end Wire

end BoundSql
