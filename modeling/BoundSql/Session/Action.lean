import BoundSql.Session.Step

/-!
# Effects of single calls

What each call does to a session and what it answers. Calls that need a builder fail on the handle
of a group, which only takes conditions.
-/

namespace BoundSql

variable {L : Type} [Connection L]

namespace Session

/-- The receiver of a step: the builder of its register, or the present one, or the handle of a
group on the conditions of either. All handles on one builder write into the same list. -/
def receiverOf (site : Site) (here : Receiver) : Attempt (Session L) Receiver := do
  let receiver ← match site.register with
    | none => pure here
    | some register => do pure (.builder (← numberOf register))
  pure (if site.handle then .group receiver.number else receiver)

/-- The number of the builder that a step needs; the handle of a group is none. -/
def needBuilder (site : Site) (here : Receiver) : Attempt (Session L) Nat := do
  match ← receiverOf site here with
  | .builder n => pure n
  | .group _ => .fail .absentCall

/-- The answer of a call that returns its receiver. -/
def returned (receiver : Receiver) : Attempt (Session L) Answer := do
  let s ← .state
  match receiver with
  | .builder n => pure (.receiver (if s.trace then some (s.builder n) else none))
  | .group _ => pure (.receiver none)

/-- A table answer with the state of the catalog. -/
def tablesAnswer (answer : TableAnswer) : Attempt (Session L) Answer := do
  let s ← .state
  pure (.tables answer s.catalog.isLoaded s.fetches)

/-- Use the connection from outside a builder. -/
def onLink {α : Type} (act : Attempt L α) : Attempt (Session L) α :=
  (Line.ask .absentCall act).within linePart

/-- Keep a statement as the one obtained last. -/
def keep (statement : Connection.Statement L) : Attempt (Session L) Answer := do
  .update fun s => { s with statement := some statement }
  pure .statement

end Session

namespace Clause

/-- Make a call that builds a query; the handle of a group takes conditions only. -/
def perform (call : Clause) (receiver : Receiver) : Attempt (Session L) Answer := do
  match receiver, call with
  | .group n, .condition c => do
    (Clause.apply (.condition c)).within (Session.queryPart n)
    Session.returned receiver
  | .group _, _ => .fail .absentCall
  | .builder n, call => do
    call.apply.within (Session.queryPart n)
    Session.returned receiver

end Clause

namespace BuilderCall

/-- Change the query of a builder directly. -/
def change (n : Nat) (f : Query → Query) : Attempt (Session L) Answer := do
  (Attempt.update f).within (Session.queryPart n)
  pure (.receiver none)

/-- Make a call on a builder. -/
def perform (n : Nat) : BuilderCall → Attempt (Session L) Answer
  | toSql => do return .text (← Builder.compile.within (Session.builderPart n)).sql
  | compile => do return .compiled (← Builder.compile.within (Session.builderPart n))
  | compileCount => do return .compiled (← Builder.compileCount.within (Session.builderPart n))
  | bindings => do return .bindings ((← .state).builder n).binder.params
  | dump => do return .builder ((← .state).builder n)
  | get => do return .rows (← Desk.get.within (Session.deskPart n))
  | first => do return .row (← Desk.first.within (Session.deskPart n))
  | value column => do return .value (← (Desk.value column).within (Session.deskPart n))
  | count => do return .number (← Desk.count.within (Session.deskPart n))
  | execute => do return .value (← Desk.execute.within (Session.deskPart n))
  | insertGetId => do return .value (← Desk.insertGetId.within (Session.deskPart n))
  | lastInsertId => do return .value (← Desk.lastInsertId.within (Session.deskPart n))
  | countTotal => do return .number (← Desk.countTotal.within (Session.deskPart n))
  | paginate page perPage => do
    let settings := (← .state).settings
    return .page (← (Desk.paginate settings page perPage).within (Session.deskPart n))
  | run => do
    Session.keep (← Desk.run.within (Session.deskPart n))
  | snapshot name => do
    let taken := ((← .state).builder n).snapshot
    .update fun s => { s with snapshots := Entries.put (· == ·) name taken s.snapshots }
    pure (.snapshot taken)
  | restore name => do
    let taken ← .ofOption .absentKey (Entries.find? (· == ·) name (← .state).snapshots)
    (Attempt.update fun b => b.restore taken).within (Session.builderPart n)
    return .builder ((← .state).builder n)
  | setKind kind => change n fun q => { q with kind }
  | push .wheres token => change n fun q => { q with wheres := q.wheres ++ [token] }
  | push .having token => change n fun q => { q with having := q.having ++ [token] }

end BuilderCall

namespace StatementCall

/-- Make a call on the statement obtained last. -/
def perform : StatementCall → Attempt (Session L) Answer
  | bind name value => do
    Session.withStatement (Connection.bind name value)
    pure .done
  | execute => do
    Session.withStatement Connection.execute
    pure .done
  | fetch => do return .row (← Session.withStatement Connection.fetch)
  | fetchAll => do return .rows (← Session.withStatement Connection.fetchAll)
  | rowCount => do return .value (← Session.withStatement Connection.rowCount)

end StatementCall

namespace ConnectionCall

/-- Make a call on the connection. -/
def perform : ConnectionCall → Attempt (Session L) Answer
  | prepare sql => do Session.keep (← Session.onLink (Connection.prepare sql))
  | begin => do
    Session.onLink Connection.begin
    pure .done
  | commit => do
    Session.onLink Connection.commit
    pure .done
  | rollback => do
    Session.onLink Connection.rollback
    pure .done
  | inTransaction => do
    return .truth (← Session.onLink (do return Connection.inTransaction (← .state)))
  | lastInsertId => do return .value (← Session.onLink Connection.lastInsertId)
  | close => do
    Session.onLink (.update Connection.close)
    pure .closed
  | wraps => do
    if Connection.wraps L then Session.onLink (pure (.truth true)) else .fail .absentCall

end ConnectionCall

namespace DatabaseCall

/-- Make a call on the database. -/
def perform : DatabaseCall → Attempt (Session L) Answer
  | query register => do
    let n ← Session.newBuilder register
    return .builder ((← .state).builder n)
  | table register name label => do
    let n ← Session.newBuilder register
    (Clause.apply (.table name label)).within (Session.queryPart n)
    return .builder ((← .state).builder n)
  | lastInsertId => do return .value (← Session.onLink Connection.lastInsertId)
  | settings => do return .settings (← .state).settings
  | connection => pure (.truth true)
  | hasTable name => do Session.tablesAnswer (.found (← Session.hasTable name))
  | tables => do
    let names ← Session.tableNames
    Session.tablesAnswer (.names (names.mergeSort fun a b => !(b < a)))
  | preload => do
    Session.preloadTables
    Session.tablesAnswer .nothing
  | invalidate => do
    Session.forgetTables
    Session.tablesAnswer .nothing
  | setTables entries => do
    .update fun s => { s with tables := s.tables.withEntries entries }
    Session.tablesAnswer .nothing

end DatabaseCall

namespace Action

/-- Make a call that runs no other steps. -/
def perform (site : Site) (here : Receiver) : Action → Attempt (Session L) Answer
  | clause call => do call.perform (← Session.receiverOf site here)
  | builder call => do BuilderCall.perform (← Session.needBuilder site here) call
  | statement call => call.perform
  | connection call => call.perform
  | database call => call.perform
  | raise message => .fail (.driver ⟨.foreign, message⟩)

end Action

end BoundSql
