import BoundSql.Proofs.Connection.Execute
import Mathlib.Data.List.Induction

/-!
# The delivery of buffered rows

A buffered statement keeps the rows of its last result and how many of them were handed out. What
was handed out and what is left make up the result at every moment, however the reads follow each
other, so no row is lost, repeated or moved. A result is read in full while the statement runs, so
the reads never reach the driver, and what becomes of the connection does not matter to them.
-/

namespace BoundSql

open Attempt

namespace BufferedLink

/-- A read of a statement. -/
inductive Read where
  | fetch
  | fetchAll
  | rowCount
  deriving DecidableEq, Repr

/-- What a read hands out. -/
inductive Handout where
  /-- The next row, if there is one. -/
  | next (row : Option Row)
  /-- All rows that are left. -/
  | rest (rows : List Row)
  /-- The number of changed rows. -/
  | count (count : Value)

/-- The rows that are handed out. -/
def Handout.rows : Handout → List Row
  | next row => row.toList
  | rest rows => rows
  | count _ => []

/-- The rows of the last result that were not handed out. -/
def Statement.left (s : Statement) : List Row := (s.rows.getD []).drop s.position

/-- An attempt on the statement leaves the connection as it is. -/
theorem run_within_statement {α β : Type} (act : Attempt Statement α) (f : α → β) (s : Statement)
    (link : BufferedLink) :
    (act.within statementPart >>= fun a => pure (f a)).run (s, link) =
      (((act >>= fun a => pure (f a)).run s).1, ((act >>= fun a => pure (f a)).run s).2, link) := by
  rw [run_bind, run_bind, run_within]
  dsimp only [statementPart]
  rcases act.run s with ⟨outcome, s'⟩
  cases outcome <;> rfl

/-- A result that is handed over is kept from its first row on; where none is, the last one
stays. -/
theorem kept_of_serve (s : Statement) (link : BufferedLink) :
    let r := serve.run (s, link)
    match r.1 with
    | .ok rows => r.2.1.rows = some rows ∧ r.2.1.position = 0
    | .error _ => r.2.1.rows = s.rows ∧ r.2.1.position = s.position := by
  rcases hdriver : (perform s).run link with ⟨outcome, link'⟩
  cases outcome with
  | error f =>
    rw [run_serve_error hdriver]
    exact ⟨rfl, rfl⟩
  | ok outcome =>
    obtain ⟨insertId, hserve⟩ := run_serve_ok hdriver
    rw [hserve]
    dsimp only [Statement.kept]
    cases outcome.result <;> exact ⟨rfl, rfl⟩

namespace Read

/-- Make a read on the connection. -/
def perform : Read → Attempt (Statement × BufferedLink) Handout
  | fetch => do return .next (← Connection.fetch (L := BufferedLink))
  | fetchAll => do return .rest (← Connection.fetchAll (L := BufferedLink))
  | rowCount => do return .count (← Connection.rowCount (L := BufferedLink))

/-- What a read asks of the statement. -/
def ask : Read → Attempt Statement Handout
  | fetch => do return .next (← BufferedLink.fetch)
  | fetchAll => do return .rest (← BufferedLink.fetchAll)
  | rowCount => do return .count (← BufferedLink.rowCount)

/-- A read is up to the statement alone; the connection stays as it is. -/
theorem run_perform (read : Read) (s : Statement) (link : BufferedLink) :
    read.perform.run (s, link) = ((read.ask.run s).1, (read.ask.run s).2, link) := by
  cases read <;> exact run_within_statement _ _ s link

/-- What a read hands out of what is left. -/
def handout (s : Statement) : Read → Handout
  | fetch => .next s.left.head?
  | fetchAll => .rest s.left
  | rowCount => .count s.rowCount

variable {s : Statement}

/-- A read before there is a result is refused and changes nothing. -/
theorem run_ask_refused (read : Read) (h : s.rows = none) :
    read.ask.run s = (.error (.notExecuted s.plainSql), s) := by
  have hresult : s.result = .error (.notExecuted s.plainSql) := by rw [Statement.result, h]
  cases read
  all_goals
    dsimp only [ask, BufferedLink.fetch, BufferedLink.fetchAll, BufferedLink.rowCount]
    rw [bind_assoc, run_bind, run_state]
    dsimp only
    rw [hresult]
    rfl

/-- What a read of a result leaves. -/
structure Leaves (read : Read) (s s' : Statement) : Prop where
  /-- The result stays. -/
  rows : s'.rows = s.rows
  /-- What is handed out and what is left afterwards is what was left before. -/
  left : (read.handout s).rows ++ s'.left = s.left
  /-- Telling the number of changed rows leaves everything as it is. -/
  rowCount : read = .rowCount → s' = s

/-- A row that is handed out is passed over. -/
theorem run_ask_fetch {rows : List Row} (h : s.rows = some rows) :
    Read.fetch.ask.run s = (.ok (.next rows[s.position]?),
      if rows[s.position]?.isSome then { s with position := s.position + 1 } else s) := by
  have hresult : s.result = .ok rows := by rw [Statement.result, h]
  dsimp only [ask, BufferedLink.fetch]
  rw [bind_assoc, run_bind, run_state]
  dsimp only
  rw [hresult, bind_assoc, run_bind, run_ofExcept]
  dsimp only
  cases rows[s.position]? <;> rfl

/-- The next row of a result is handed out, if one is left. -/
theorem exists_run_fetch {rows : List Row} (h : s.rows = some rows) :
    ∃ s', Read.fetch.ask.run s = (.ok (Read.fetch.handout s), s') ∧ Read.fetch.Leaves s s' := by
  have hleft : s.left = rows.drop s.position := by rw [Statement.left, h, Option.getD_some]
  have hhead : s.left.head? = rows[s.position]? := by rw [hleft, List.head?_drop]
  refine ⟨_, by rw [run_ask_fetch h, handout, hhead], ?_⟩
  cases hrow : rows[s.position]? with
  | none =>
    refine ⟨rfl, ?_, nofun⟩
    rw [handout, hhead, hrow]
    rfl
  | some row =>
    obtain ⟨rest, hrest⟩ := List.head?_eq_some_iff.mp (hhead.trans hrow)
    have hbehind : Statement.left { s with position := s.position + 1 } = rest := by
      rw [Statement.left, h, Option.getD_some, ← List.tail_drop, ← hleft, hrest, List.tail_cons]
    refine ⟨rfl, ?_, nofun⟩
    rw [handout, hhead, hrow, hrest]
    exact congrArg (row :: ·) hbehind

/-- A read of a result answers. -/
theorem exists_run_ask (read : Read) {rows : List Row} (h : s.rows = some rows) :
    ∃ s', read.ask.run s = (.ok (read.handout s), s') ∧ read.Leaves s s' := by
  have hresult : s.result = .ok rows := by rw [Statement.result, h]
  cases read with
  | fetch => exact exists_run_fetch h
  | fetchAll =>
    have hleft : s.left = rows.drop s.position := by rw [Statement.left, h, Option.getD_some]
    refine ⟨{ s with position := rows.length }, ?_, rfl, ?_, nofun⟩
    · dsimp only [ask, BufferedLink.fetchAll]
      rw [bind_assoc, run_bind, run_state]
      dsimp only
      rw [hresult, handout, hleft]
      rfl
    · have hnone : Statement.left { s with position := rows.length } = [] := by
        rw [Statement.left, h, Option.getD_some, List.drop_length]
      rw [hnone, List.append_nil]
      rfl
  | rowCount =>
    refine ⟨s, ?_, rfl, rfl, fun _ => rfl⟩
    dsimp only [ask, BufferedLink.rowCount]
    rw [bind_assoc, run_bind, run_state]
    dsimp only
    rw [hresult]
    rfl

end Read

/-! ### Sequences of calls -/

/-- A call on a prepared statement. -/
inductive Use where
  | bind (name : String) (value : Value)
  | execute
  | read (read : Read)

/-- A statement with the account of its reads. -/
structure Account where
  statement : Statement
  /-- The rows of the last result that was read from the driver. -/
  result : Option (List Row)
  /-- The rows that were handed out of it, in the order of the reads. -/
  taken : List Row

namespace Account

/-- A statement that was just prepared. -/
def prepared (sql : String) : Account := ⟨.fresh sql, none, []⟩

/-- The rows that a read hands out; none if it fails. -/
def handedOut : Except Failure Handout → List Row
  | .ok handout => handout.rows
  | .error _ => []

/-- The account after a call that is made while the connection is in some state. A result counts
once it was read from the driver, whether or not the transaction can be ended behind it. -/
def after (a : Account) : Use × BufferedLink → Account
  | (.bind name value, link) =>
    { a with
      statement := ((Connection.bind (L := BufferedLink) name value).run (a.statement, link)).2.1 }
  | (.execute, link) =>
    let statement := ((Connection.execute (L := BufferedLink)).run (a.statement, link)).2.1
    match (serve.run (a.statement, link)).1 with
    | .ok rows => ⟨statement, some rows, []⟩
    | .error _ => { a with statement }
  | (.read read, link) =>
    let outcome := read.perform.run (a.statement, link)
    { a with statement := outcome.2.1, taken := a.taken ++ handedOut outcome.1 }

end Account

/-- The account of a statement after some calls, each made while the connection is in a state of its
own. -/
def account (sql : String) (uses : List (Use × BufferedLink)) : Account :=
  uses.foldl Account.after (.prepared sql)

@[simp] theorem account_append (sql : String) (uses later : List (Use × BufferedLink)) :
    account sql (uses ++ later) = later.foldl Account.after (account sql uses) :=
  List.foldl_append

namespace Account

/-- What ends a transaction does not touch the statement. -/
theorem statement_execute (s : Statement) (link : BufferedLink) :
    ((Connection.execute (L := BufferedLink)).run (s, link)).2.1 =
      (serve.run (s, link)).2.1 := by
  obtain ⟨_, _, hafter⟩ :=
    Adapter.exists_run_execute lawful_wirePart.ofSecond isOwnFault serve (s, link)
  exact (Prod.ext_iff.mp hafter).1

/-- A run for which the driver handed over a result starts a new account. -/
theorem after_execute_ok {a : Account} {link link' : BufferedLink} {s' : Statement}
    {rows : List Row} (h : serve.run (a.statement, link) = (.ok rows, s', link')) :
    a.after (.execute, link) = ⟨s', some rows, []⟩ := by
  rw [Account.after, statement_execute, h]

/-- A run for which it did not leaves what was handed out as it is. -/
theorem after_execute_error {a : Account} {link link' : BufferedLink} {s' : Statement}
    {failure : Failure} (h : serve.run (a.statement, link) = (.error failure, s', link')) :
    a.after (.execute, link) = { a with statement := s' } := by
  rw [Account.after, statement_execute, h]

/-- What is true of an account after every call. -/
structure Sound (a : Account) : Prop where
  /-- The statement keeps the result. -/
  result : a.statement.rows = a.result
  /-- What was handed out and what is left make up the result. -/
  taken : a.taken ++ a.statement.left = a.result.getD []

/-- Of a statement that was just prepared nothing was handed out, and nothing is left. -/
theorem sound_prepared (sql : String) : (prepared sql).Sound := ⟨rfl, rfl⟩

namespace Sound

variable {a : Account}

/-- The account after a read of a result. -/
theorem read (h : a.Sound) (read : Read) (link : BufferedLink) {rows : List Row}
    (hrows : a.result = some rows) :
    ∃ s', read.perform.run (a.statement, link) = (.ok (read.handout a.statement), s', link) ∧
      read.Leaves a.statement s' ∧ a.after (.read read, link) =
        ⟨s', some rows, a.taken ++ (read.handout a.statement).rows⟩ := by
  obtain ⟨s', hask, hleaves⟩ := read.exists_run_ask (h.result.trans hrows)
  have hrun : read.perform.run (a.statement, link) =
      (.ok (read.handout a.statement), s', link) := by rw [read.run_perform, hask]
  refine ⟨s', hrun, hleaves, ?_⟩
  rw [Account.after, hrun, hrows]
  rfl

/-- The account after a read while there is no result. -/
theorem refused (h : a.Sound) (read : Read) (link : BufferedLink) (hrows : a.result = none) :
    read.perform.run (a.statement, link) =
        (.error (.notExecuted a.statement.plainSql), a.statement, link) ∧
      a.after (.read read, link) = a := by
  have hrun : read.perform.run (a.statement, link) =
      (.error (.notExecuted a.statement.plainSql), a.statement, link) := by
    rw [read.run_perform, read.run_ask_refused (h.result.trans hrows)]
  refine ⟨hrun, ?_⟩
  rw [Account.after, hrun]
  simp only [handedOut, List.append_nil]

/-- Every call keeps an account sound. -/
theorem after (h : a.Sound) (use : Use) (link : BufferedLink) : (a.after (use, link)).Sound := by
  cases use with
  | bind name value => exact ⟨h.result, h.taken⟩
  | execute =>
    rcases hserve : serve.run (a.statement, link) with ⟨outcome, s', link'⟩
    cases outcome with
    | ok rows =>
      obtain ⟨hrows, hposition⟩ : s'.rows = some rows ∧ s'.position = 0 := by
        simpa only [hserve] using kept_of_serve a.statement link
      rw [after_execute_ok hserve]
      refine ⟨hrows, ?_⟩
      rw [List.nil_append, Statement.left, hrows, hposition, List.drop_zero]
    | error failure =>
      obtain ⟨hrows, hposition⟩ : s'.rows = a.statement.rows ∧
          s'.position = a.statement.position := by
        simpa only [hserve] using kept_of_serve a.statement link
      rw [after_execute_error hserve]
      refine ⟨hrows.trans h.result, ?_⟩
      rw [Statement.left, hrows, hposition]
      exact h.taken
  | read read =>
    cases hrows : a.result with
    | none =>
      rw [(h.refused read link hrows).2]
      exact h
    | some rows =>
      obtain ⟨s', _, hleaves, hafter⟩ := h.read read link hrows
      rw [hafter]
      refine ⟨hleaves.rows.trans (h.result.trans hrows), ?_⟩
      rw [List.append_assoc, hleaves.left, h.taken, hrows]

/-- What was handed out is a prefix of the result. -/
theorem taken_prefix (h : a.Sound) {rows : List Row} (hrows : a.result = some rows) :
    a.taken <+: rows := by
  refine ⟨a.statement.left, ?_⟩
  rw [h.taken, hrows, Option.getD_some]

/-- A read that asks for everything, or finds nothing, has handed out the whole result. -/
theorem taken_eq_of_last (h : a.Sound) {rows : List Row} (hrows : a.result = some rows)
    {read : Read} (hlast : read = .fetchAll ∨ read.handout a.statement = .next none) :
    a.taken ++ (read.handout a.statement).rows = rows := by
  have htaken : a.taken ++ a.statement.left = rows := by rw [h.taken, hrows, Option.getD_some]
  obtain rfl | hnone := hlast
  · exact htaken
  · cases read with
    | fetch =>
      rw [Read.handout, Handout.next.injEq, List.head?_eq_none_iff] at hnone
      rw [Read.handout, hnone, ← htaken, hnone]
      rfl
    | fetchAll | rowCount => cases hnone

end Sound

/-- The whole of a result was handed out. -/
structure Exhausted (a : Account) (rows : List Row) : Prop extends a.Sound where
  all : a.result = some rows
  taken_eq : a.taken = rows

namespace Exhausted

variable {a : Account} {rows : List Row}

/-- Nothing is left then. -/
theorem left_eq_nil (h : a.Exhausted rows) : a.statement.left = [] := by
  have htaken := h.taken
  rw [h.taken_eq, h.all, Option.getD_some] at htaken
  simpa using htaken

/-- It stays so until the statement runs again. -/
theorem after (h : a.Exhausted rows) {use : Use} (huse : use ≠ .execute) (link : BufferedLink) :
    (a.after (use, link)).Exhausted rows := by
  have hsound := h.toSound.after use link
  cases use with
  | bind name value => exact ⟨hsound, h.all, h.taken_eq⟩
  | execute => exact absurd rfl huse
  | read read =>
    obtain ⟨s', _, hleaves, hafter⟩ := h.toSound.read read link h.all
    have hleft := hleaves.left
    rw [h.left_eq_nil] at hleft
    rw [hafter, (List.append_eq_nil_iff.mp hleft).1, List.append_nil] at hsound ⊢
    exact ⟨hsound, rfl, h.taken_eq⟩

/-- Rows that are exhausted stay so until the statement runs again. -/
theorem foldl (h : a.Exhausted rows) {later : List (Use × BufferedLink)}
    (hlater : ∀ use ∈ later, use.1 ≠ .execute) : (later.foldl Account.after a).Exhausted rows := by
  induction later generalizing a with
  | nil => exact h
  | cons use later ih =>
    obtain ⟨huse, hlater⟩ := List.forall_mem_cons.mp hlater
    exact ih (h.after huse use.2) hlater

/-- No read finds a row then. -/
theorem finds_nothing (h : a.Exhausted rows) (link : BufferedLink) :
    (Read.fetch.perform.run (a.statement, link)).1 = .ok (.next none) ∧
      (Read.fetchAll.perform.run (a.statement, link)).1 = .ok (.rest []) := by
  obtain ⟨_, hfetch, _⟩ := h.toSound.read .fetch link h.all
  obtain ⟨_, hfetchAll, _⟩ := h.toSound.read .fetchAll link h.all
  rw [hfetch, hfetchAll, Read.handout, Read.handout, h.left_eq_nil]
  exact ⟨rfl, rfl⟩

end Exhausted

end Account

/-- The account of a statement is sound after any calls. -/
theorem sound_account (sql : String) (uses : List (Use × BufferedLink)) :
    (account sql uses).Sound := by
  induction uses using List.reverseRecOn with
  | nil => exact Account.sound_prepared sql
  | append_singleton uses use ih =>
    rw [account_append]
    exact ih.after use.1 use.2

/-- While no run got a result from the driver there is none. -/
theorem result_account_eq_none {sql : String} {uses : List (Use × BufferedLink)}
    (h : ∀ front link back, uses = front ++ (.execute, link) :: back →
      ∃ f, (serve.run ((account sql front).statement, link)).1 = .error f) :
    (account sql uses).result = none := by
  induction uses using List.reverseRecOn with
  | nil => rfl
  | append_singleton uses use ih =>
    have hnone : (account sql uses).result = none := by
      refine ih fun front link back huses => h front link (back ++ [use]) ?_
      rw [huses, List.append_assoc, List.cons_append]
    obtain ⟨use, link⟩ := use
    rw [account_append]
    cases use with
    | bind name value => exact hnone
    | execute =>
      obtain ⟨f, hf⟩ := h uses link [] rfl
      rw [List.foldl_cons, List.foldl_nil, Account.after_execute_error (Prod.ext hf rfl)]
      exact hnone
    | read read => exact hnone

/-- A result is read with the call that runs the statement; nothing is sent behind it but the end of
the transaction. -/
theorem calls_execute {s s' : Statement} {link link' : BufferedLink} {rows : List Row}
    (h : serve.run (s, link) = (.ok rows, s', link')) :
    link'.wire.calls =
        link.wire.calls ++ [⟨"raw.execute", Adapter.arguments s.sql s.params⟩] ∧
      ((execute.run (s, link)).2.2 = link' ∨
        (execute.run (s, link)).2.2.wire.calls =
          link'.wire.calls ++ [⟨"raw.commit", []⟩]) := by
  obtain ⟨opens, hwire, _⟩ := wire_serve s link
  rw [h] at hwire
  refine ⟨by rw [hwire, Wire.calls_served]; rfl, ?_⟩
  by_cases hidle : link.wire.inTransaction = true ∨ link'.wire.inTransaction = false
  · left
    rw [execute, Adapter.run_execute_idle h hidle]
  · obtain ⟨hclosed, hopened⟩ : link.wire.inTransaction = false ∧
        link'.wire.inTransaction = true := by simpa using hidle
    right
    rw [execute, Adapter.run_execute_ok h hclosed hopened, run_within]
    exact Wire.calls_signal "raw.commit" Wire.committed (fun _ => rfl) link'.wire

/-- What a statement delivers after some calls. -/
structure Delivers (sql : String) (uses : List (Use × BufferedLink)) : Prop where
  /-- While no run got a result from the driver, reads are refused and change nothing. -/
  refused : (∀ front link back, uses = front ++ (.execute, link) :: back →
      ∃ f, (serve.run ((account sql front).statement, link)).1 = .error f) →
    ∀ (read : Read) link, read.perform.run ((account sql uses).statement, link) =
      (.error (.notExecuted (account sql uses).statement.plainSql), (account sql uses).statement,
        link)
  /-- What was handed out of a result is a prefix of it. -/
  taken : ∀ rows, (account sql uses).result = some rows → (account sql uses).taken <+: rows
  /-- A read of a result answers and leaves the connection alone, what it hands out comes behind
  what was handed out before, and telling the number of changed rows changes nothing. -/
  read : ∀ rows, (account sql uses).result = some rows → ∀ (read : Read) link, ∃ handout s',
    read.perform.run ((account sql uses).statement, link) = (.ok handout, s', link) ∧
      account sql (uses ++ [(.read read, link)]) =
        ⟨s', some rows, (account sql uses).taken ++ handout.rows⟩ ∧
      (read = .rowCount → handout.rows = [] ∧ s' = (account sql uses).statement)
  /-- Behind a read of all rows, and behind one that finds no row, the whole result was handed out,
  and further reads find nothing until the statement runs again. -/
  exhausted : ∀ rows, (account sql uses).result = some rows → ∀ (read : Read) link,
    (read = .fetchAll ∨
      (read.perform.run ((account sql uses).statement, link)).1 = .ok (.next none)) →
    ∀ later, (∀ use ∈ later, use.1 ≠ .execute) →
      (account sql (uses ++ (.read read, link) :: later)).taken = rows ∧
        ∀ link', (Read.fetch.perform.run
            ((account sql (uses ++ (.read read, link) :: later)).statement, link')).1 =
              .ok (.next none) ∧
          (Read.fetchAll.perform.run
            ((account sql (uses ++ (.read read, link) :: later)).statement, link')).1 =
              .ok (.rest [])
  /-- A run for which the driver hands over a result starts over with it, also where the transaction
  cannot be ended behind it. The rows are those that came with the call that runs the statement; no
  call but the end of the transaction is sent after it. -/
  started : ∀ link rows s' link',
    serve.run ((account sql uses).statement, link) = (.ok rows, s', link') →
      (∃ outcome, ((perform (account sql uses).statement).run link).1 = .ok outcome ∧
        outcome.namedRows = .ok rows) ∧
      (account sql (uses ++ [(.execute, link)])).result = some rows ∧
      (account sql (uses ++ [(.execute, link)])).taken = [] ∧
      link'.wire.calls = link.wire.calls ++
        [⟨"raw.execute", Adapter.arguments (account sql uses).statement.sql
          (account sql uses).statement.params⟩] ∧
      ((execute.run ((account sql uses).statement, link)).2.2 = link' ∨
        (execute.run ((account sql uses).statement, link)).2.2.wire.calls =
          link'.wire.calls ++ [⟨"raw.commit", []⟩])
  /-- A run that fails before its rows were read leaves the last result as it was, with the rows
  that were handed out of it. -/
  kept : ∀ link f, (serve.run ((account sql uses).statement, link)).1 = .error f →
    (account sql (uses ++ [(.execute, link)])).result = (account sql uses).result ∧
      (account sql (uses ++ [(.execute, link)])).taken = (account sql uses).taken
  /-- A run that succeeds got a result from the driver. -/
  succeeded : ∀ link, (execute.run ((account sql uses).statement, link)).1 = .ok () →
    ∃ rows s' link', serve.run ((account sql uses).statement, link) = (.ok rows, s', link')

/-- A buffered statement delivers each row of a result once and in order, however its calls follow
each other and whatever becomes of the connection between them. -/
theorem delivers (sql : String) (uses : List (Use × BufferedLink)) : Delivers sql uses := by
  have h := sound_account sql uses
  refine
    { refused := ?refused
      taken := fun rows hrows => h.taken_prefix hrows
      read := ?read
      exhausted := ?exhausted
      started := ?started
      kept := ?kept
      succeeded := ?succeeded }
  case refused =>
    intro hfailed read link
    exact (h.refused read link (result_account_eq_none hfailed)).1
  case read =>
    intro rows hrows read link
    obtain ⟨s', hrun, hleaves, hafter⟩ := h.read read link hrows
    refine ⟨_, s', hrun, ?_, ?_⟩
    · rw [account_append]
      exact hafter
    · rintro rfl
      exact ⟨rfl, hleaves.rowCount rfl⟩
  case exhausted =>
    intro rows hrows read link hlast later hlater
    obtain ⟨s', hrun, _, hafter⟩ := h.read read link hrows
    rw [hrun, Except.ok.injEq] at hlast
    have hexhausted : ((account sql uses).after (.read read, link)).Exhausted rows := by
      have hsound := h.after (.read read) link
      rw [hafter, h.taken_eq_of_last hrows hlast] at hsound ⊢
      exact ⟨hsound, rfl, rfl⟩
    rw [account_append, List.foldl_cons]
    have hlater := hexhausted.foldl hlater
    exact ⟨hlater.taken_eq, hlater.finds_nothing⟩
  case started =>
    intro link rows s' link' hserve
    have hafter := Account.after_execute_ok hserve
    rw [account_append, List.foldl_cons, List.foldl_nil, hafter]
    exact ⟨exists_outcome_of_serve (congrArg Prod.fst hserve), rfl, rfl, calls_execute hserve⟩
  case kept =>
    intro link f hf
    rw [account_append, List.foldl_cons, List.foldl_nil,
      Account.after_execute_error (Prod.ext hf rfl)]
    exact ⟨rfl, rfl⟩
  case succeeded =>
    intro link hrun
    obtain ⟨rows, ⟨s', link'⟩, hserve⟩ := Adapter.exists_answer_of_execute hrun
    exact ⟨rows, s', link', hserve⟩

/-- Three rows of which the first is fetched: all others are read at once, and then there is none. A
read before the statement ran is refused. -/
theorem delivers_three :
    let outcome : BufferedOutcome :=
      ⟨true, none, .int 3, .unavailable, some [.text "id"], [[.int 1], [.int 2], [.int 3]], none⟩
    let link : BufferedLink := ⟨.fresh false [], [outcome], false, false, "0", [], .null, false, []⟩
    let uses : List (Use × BufferedLink) :=
      [(.read .fetchAll, link), (.execute, link), (.read .fetch, link), (.read .rowCount, link)]
    (account "SELECT id FROM t" uses).taken = [[(.text "id", .int 1)]] ∧
      (account "SELECT id FROM t" (uses ++ [(.read .fetchAll, link)])).taken =
        [[(.text "id", .int 1)], [(.text "id", .int 2)], [(.text "id", .int 3)]] ∧
      (Read.fetch.perform.run
        ((account "SELECT id FROM t" (uses ++ [(.read .fetchAll, link)])).statement, link)).1 =
          .ok (.next none) ∧
      Read.fetch.perform.run (.fresh "SELECT id FROM t", link) =
        (.error (.notExecuted "SELECT id FROM t"), .fresh "SELECT id FROM t", link) := by
  intro outcome link uses
  have hall := (delivers "SELECT id FROM t" uses).exhausted _ rfl .fetchAll link (.inl rfl) [] nofun
  have hnone := (delivers "SELECT id FROM t" []).refused
    (fun front _ _ h => by cases front <;> cases h) .fetch link
  exact ⟨rfl, hall.1, (hall.2 link).1, hnone⟩

end BufferedLink

end BoundSql
