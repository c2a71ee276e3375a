import BoundSql.Catalog
import BoundSql.Page
import BoundSql.Transaction

/-!
# Sessions

A session is a connection with settings, a log, a catalog of tables, and the builders that were
made for it. Builders are numbered as they are made, and registers give names to numbers, so that
a builder stays the same one while its register is given to another.
-/

namespace BoundSql

/-- Where the names of the tables come from. -/
inductive TableSource where
  /-- There are none. -/
  | nothing
  /-- A list that can be changed, with the number of times it was read. -/
  | listed (entries : List Value) (fetches : Nat)
  /-- The connection. -/
  | connection
  deriving Repr

/-- Change the list that will be read next; other sources stay as they are. -/
def TableSource.withEntries (entries : List Value) : TableSource → TableSource
  | listed _ fetches => listed entries fetches
  | source => source

/-- A connection with everything made for it. -/
structure Session (L : Type) [Connection L] where
  /-- The settings all builders share. -/
  settings : Settings
  /-- The builders by number. -/
  builders : List Builder
  /-- The numbers of builders by register, in order of first use. -/
  registers : Entries String Nat
  /-- The connection and the log. -/
  line : Line L
  /-- The statement obtained last. -/
  statement : Option (Connection.Statement L)
  /-- The snapshots taken so far, by name. -/
  snapshots : Entries String Snapshot
  /-- The names of the tables. -/
  catalog : Catalog
  /-- Where they come from. -/
  tables : TableSource
  /-- Whether calls on builders answer with the builder. -/
  trace : Bool

/-- What a call is made on: a builder, or the handle of a group on the conditions of a builder. -/
inductive Receiver where
  | builder (number : Nat)
  | group (number : Nat)
  deriving DecidableEq, Repr

namespace Receiver

/-- The number of the builder behind a receiver. -/
def number : Receiver → Nat
  | builder n | group n => n

end Receiver

namespace Session

variable {L : Type} [Connection L]

/-- The register of the first builder. -/
def mainRegister : String := "main"

/-- A session with one builder. -/
def start (settings : Settings) (dialect : Dialect) (link : Option L) (tables : TableSource)
    (trace : Bool) : Session L :=
  { settings, builders := [.fresh dialect], registers := [(mainRegister, 0)], line := ⟨link, []⟩,
    statement := none, snapshots := [], catalog := .empty, tables, trace }

/-- The builder of a number. -/
def builder (s : Session L) (number : Nat) : Builder :=
  s.builders[number]?.getD (.fresh (.ofTarget s.settings.target))

/-- The builder of a number as a part of the session. -/
def builderPart (number : Nat) : Part (Session L) Builder :=
  ⟨fun s => s.builder number, fun b s => { s with builders := s.builders.set number b }⟩

/-- The query of a builder as a part of the session. -/
def queryPart (number : Nat) : Part (Session L) Query :=
  ⟨fun s => (s.builder number).query,
    fun query s => { s with builders := s.builders.set number { s.builder number with query } }⟩

/-- The connection and the log as a part of the session. -/
def linePart : Part (Session L) (Line L) := ⟨line, fun line s => { s with line }⟩

/-- A builder at the connection as a part of the session. -/
def deskPart (number : Nat) : Part (Session L) (Desk L) :=
  ⟨fun s => ⟨s.builder number, s.line⟩,
    fun d s => { s with builders := s.builders.set number d.builder, line := d.line }⟩

/-- The catalog as a part of the session. -/
def catalogPart : Part (Session L) Catalog := ⟨catalog, fun catalog s => { s with catalog }⟩

/-- The number of the builder in a register. -/
def numberOf (register : String) : Attempt (Session L) Nat := do
  .ofOption .absentKey (Entries.find? (· == ·) register (← .state).registers)

/-- Make a builder and put it into a register. -/
def newBuilder (register : String) : Attempt (Session L) Nat := do
  let s ← .state
  let number := s.builders.length
  .update fun s =>
    { s with
      builders := s.builders ++ [.fresh (.ofTarget s.settings.target)]
      registers := Entries.put (· == ·) register number s.registers }
  pure number

/-- Use the statement obtained last, which keeps every change made to it. -/
def withStatement {α : Type} (act : Attempt (Connection.Statement L × L) α) :
    Attempt (Session L) α := fun s =>
  match s.statement, s.line.link with
  | some statement, some link =>
    let (outcome, statement, link) := act (statement, link)
    (outcome, { s with statement := some statement, line := { s.line with link := some link } })
  | _, _ => (.error .noStatement, s)

/-- Fetch the names of the tables from where they come from. Without a connection to tell them there
are none. -/
def fetchTables : Attempt (Session L) (List Value) := do
  match (← .state).tables with
  | .nothing => pure []
  | .listed entries fetches => do
    .update fun s => { s with tables := .listed entries (fetches + 1) }
    pure entries
  | .connection =>
    if (← .state).line.link.isNone then pure []
    else (Line.ask .absentCall Connection.tableNames).within linePart

/-- Report that the names of the tables were fetched. -/
def announceTables (count : Nat) : Attempt (Session L) Unit :=
  (Line.report (.schemaCacheLoaded count)).within linePart

/-- The names of the tables. -/
def tableNames : Attempt (Session L) (List String) :=
  Catalog.tables catalogPart fetchTables announceTables

/-- Whether there is a table of a name. -/
def hasTable (name : Value) : Attempt (Session L) Bool :=
  Catalog.hasTable catalogPart fetchTables announceTables name

/-- Fetch the names of the tables in advance. -/
def preloadTables : Attempt (Session L) Unit :=
  Catalog.preload catalogPart fetchTables announceTables

/-- Forget the names of the tables. -/
def forgetTables : Attempt (Session L) Unit := Catalog.invalidate catalogPart

/-- How often the list of tables was read. -/
def fetches (s : Session L) : Nat :=
  match s.tables with
  | .listed _ n => n
  | _ => 0

end Session

end BoundSql
