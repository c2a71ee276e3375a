import BoundSql.Query.Clause
import BoundSql.Query.Statement

/-!
# Builders

A builder is a query with the binder and the dialect it is rendered with. Each render drops the
bindings of the one before and keeps counting, so the bindings always belong to the latest text
and no placeholder name is used twice. A snapshot holds the binder and the parts of the query that
a page changes.
-/

namespace BoundSql

/-- A query with what it is rendered with. -/
structure Builder where
  /-- What has been asked for. -/
  query : Query
  /-- The placeholders issued so far. -/
  binder : Binder
  /-- How placeholders are written. -/
  dialect : Dialect
  deriving Repr

/-- What is put back when a builder is restored. -/
structure Snapshot where
  /-- Bindings and counter. -/
  binder : Binder
  /-- The columns of the select. -/
  columns : List Value
  /-- The ordering. -/
  orderBy : List String
  /-- The greatest number of rows. -/
  limit : Option Nat
  /-- The number of rows left out in front. -/
  offset : Option Nat
  deriving Repr

namespace Builder

/-- A builder of which nothing has been asked. -/
def fresh (d : Dialect) : Builder := ⟨.fresh, .fresh, d⟩

/-- The query inside a builder. -/
def queryPart : Part Builder Query := ⟨query, fun q b => { b with query := q }⟩

/-- The binder inside a builder. -/
def binderPart : Part Builder Binder := ⟨binder, fun binder b => { b with binder }⟩

/-- Take a snapshot. -/
def snapshot (b : Builder) : Snapshot :=
  ⟨b.binder, b.query.columns, b.query.orderBy, b.query.limit, b.query.offset⟩

/-- Put back what a snapshot holds. -/
def restore (b : Builder) (s : Snapshot) : Builder :=
  { b with
    binder := s.binder
    query := { b.query with
      columns := s.columns, orderBy := s.orderBy, limit := s.limit, offset := s.offset } }

/-- A failure unless the query is of the kind that a call works for. -/
def requireKind (call : KindedCall) : Attempt Builder Unit := do
  let b ← .state
  if b.query.kind = call.kind then pure () else .fail (.wrongKind call b.query.kind)

/-- Render with fresh bindings. -/
def renderWith (text : Attempt Binder String) : Attempt Builder Compiled := do
  .update fun b => { b with binder := b.binder.reset }
  let sql ← text.within binderPart
  let b ← .state
  pure ⟨sql, b.binder.params, b.dialect.name⟩

/-- Render the statement. -/
def compile : Attempt Builder Compiled := do
  let b ← .state
  renderWith (b.query.render b.dialect)

/-- Render the count of a select. -/
def compileCount : Attempt Builder Compiled := do
  requireKind .compileCount
  let b ← .state
  renderWith (b.query.renderCount b.dialect)

/-- Restoring the present snapshot changes nothing. -/
@[simp] theorem restore_snapshot (b : Builder) : b.restore b.snapshot = b := rfl

end Builder

/-- Run an attempt and put the builder's bindings, columns, ordering and bounds back afterwards. -/
def Attempt.preserving {σ α : Type} (builder : Part σ Builder) (act : Attempt σ α) : Attempt σ α :=
  fun s =>
    let saved := (builder.get s).snapshot
    act.ensuring (fun t => builder.put ((builder.get t).restore saved) t) s

end BoundSql
