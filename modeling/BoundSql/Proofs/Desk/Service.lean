import BoundSql.Page
import BoundSql.Proofs.Connection.Line

/-!
# Statements on the connection

What a desk does with a rendered statement it does on the connection: the statement is prepared, its
values are bound in order, it runs, and its rows are read. The rest of a desk is its builder and the
log, which no call looks at.
-/

namespace BoundSql

open Attempt

variable {L α β : Type}

namespace Desk

/-- From a builder and a connection an attempt comes to an outcome and leaves a builder and a
connection behind, whatever was reported before. -/
def Comes (act : Attempt (Desk L) α) (b : Builder) (link : L) (outcome : Except Failure α)
    (b' : Builder) (link' : L) : Prop :=
  ∀ log, ∃ log', act.run ⟨b, ⟨some link, log⟩⟩ = (outcome, ⟨b', ⟨some link', log'⟩⟩)

namespace Comes

variable {act : Attempt (Desk L) α} {next : α → Attempt (Desk L) β} {b b' b'' : Builder}
  {link link' link'' : L}

protected theorem pure (a : α) : Comes (Pure.pure a : Attempt (Desk L) α) b link (.ok a) b link :=
  fun log => ⟨log, rfl⟩

protected theorem state (b : Builder) (link : L) {outcome : Except Failure β}
    {next : Desk L → Attempt (Desk L) β}
    (h : ∀ log, Comes (next ⟨b, ⟨some link, log⟩⟩) b link outcome b' link') :
    Comes (Attempt.state >>= next) b link outcome b' link' :=
  fun log => h log log

protected theorem ofExcept (e : Except Failure α) :
    Comes (Attempt.ofExcept e : Attempt (Desk L) α) b link e b link := by
  intro log
  rw [run_ofExcept]
  exact ⟨log, rfl⟩

/-- A sequence goes on from an answer, -/
theorem bind_ok {a : α} {outcome : Except Failure β} (h : Comes act b link (.ok a) b' link')
    (hn : Comes (next a) b' link' outcome b'' link'') :
    Comes (act >>= next) b link outcome b'' link'' := by
  intro log
  obtain ⟨mid, hact⟩ := h log
  obtain ⟨log', hnext⟩ := hn mid
  refine ⟨log', ?_⟩
  rw [run_bind, hact]
  exact hnext

/-- and ends with a failure. -/
theorem bind_error {f : Failure} (h : Comes act b link (.error f) b' link') :
    Comes (act >>= next) b link (.error f) b' link' := by
  intro log
  obtain ⟨log', hact⟩ := h log
  refine ⟨log', ?_⟩
  rw [run_bind, hact]

/-- What runs on the builder does nothing on the connection. -/
theorem within_builder (act : Attempt Builder α) (b : Builder) (link : L) :
    Comes (act.within builderPart : Attempt (Desk L) α) b link
      ((Attempt.ofExcept (act.run b).1).run link).1 (act.run b).2
      ((Attempt.ofExcept (act.run b).1).run link).2 := by
  rw [run_ofExcept]
  exact fun log => ⟨log, rfl⟩

/-- A change of the query does nothing on the connection. -/
theorem within_query (act : Attempt Query α) (b : Builder) (link : L) :
    Comes (act.within queryPart : Attempt (Desk L) α) b link (act.run b.query).1
      { b with query := (act.run b.query).2 } link :=
  fun log => ⟨log, rfl⟩

/-- A scope ends as its body does, and changes the desk behind it. -/
theorem ensuring {outcome : Except Failure α} (h : Comes act b link outcome b' link')
    (tidy : Builder → Builder) :
    Comes (act.ensuring fun d => { d with builder := tidy d.builder }) b link outcome (tidy b')
      link' := by
  intro log
  obtain ⟨log', hact⟩ := h log
  exact ⟨log', by rw [run_ensuring, hact]⟩

/-- A scope that preserves the builder puts it back. -/
theorem preserving {outcome : Except Failure α} (h : Comes act b link outcome b' link') :
    Comes (Attempt.preserving builderPart act) b link outcome (b'.restore b.snapshot) link' :=
  fun log => h.ensuring (fun b' => b'.restore b.snapshot) log

end Comes

/-- An attempt does on the connection what another does there, and nothing to the builder. -/
def OnLink (act : Attempt (Desk L) α) (there : Attempt L α) : Prop :=
  ∀ b link, Comes act b link (there.run link).1 b (there.run link).2

namespace OnLink

protected theorem pure (a : α) : OnLink (Pure.pure a : Attempt (Desk L) α) (Pure.pure a) :=
  fun _ _ => .pure a

/-- Attempts in a row do on the connection what each of them does there; the builder is what the
first one leaves. -/
theorem comes_bind {act : Attempt (Desk L) α} {there : Attempt L α}
    {next : α → Attempt (Desk L) β} {nextThere : α → Attempt L β} {b b' : Builder} {link : L}
    (h : Comes act b link (there.run link).1 b' (there.run link).2)
    (hn : ∀ a, OnLink (next a) (nextThere a)) :
    Comes (act >>= next) b link ((there >>= nextThere).run link).1 b'
      ((there >>= nextThere).run link).2 := by
  rw [run_bind]
  rcases hthere : there.run link with ⟨outcome, link'⟩
  rw [hthere] at h
  cases outcome with
  | ok a => exact h.bind_ok (hn a b' link')
  | error f => exact h.bind_error

/-- Attempts on the connection follow one another. -/
protected theorem bind {act : Attempt (Desk L) α} {there : Attempt L α}
    {next : α → Attempt (Desk L) β} {nextThere : α → Attempt L β} (h : OnLink act there)
    (hn : ∀ a, OnLink (next a) (nextThere a)) : OnLink (act >>= next) (there >>= nextThere) :=
  fun b link => comes_bind (h b link) hn

protected theorem ofExcept (e : Except Failure α) :
    OnLink (Attempt.ofExcept e : Attempt (Desk L) α) (.ofExcept e) := by
  intro b link
  rw [run_ofExcept]
  exact .ofExcept e

/-- A use of the connection. -/
theorem ask (there : Attempt L α) : OnLink ((Line.ask .noConnection there).within linePart) there :=
  fun _ _ log => ⟨log, rfl⟩

end OnLink

end Desk

variable [Connection L]

namespace Connection

/-- Bind values by name, one after another. -/
def bindAll (statement : Statement L) : Bindings → Attempt L (Statement L)
  | [] => pure statement
  | (name, value) :: rest => do
    let (_, statement) ← use statement (bind name value)
    bindAll statement rest

/-- Prepare a rendered statement, bind its values and run it. -/
def serve (c : Compiled) : Attempt L (Statement L) := do
  let statement ← prepare c.sql
  let statement ← bindAll statement c.params
  let (_, statement) ← use statement execute
  pure statement

/-- Serve a statement and take its first row. -/
def firstRow (c : Compiled) : Attempt L (Option Row) := do
  let (row, _) ← use (← serve c) fetch
  pure row

/-- Serve a statement and take all its rows. -/
def allRows (c : Compiled) : Attempt L (List Row) := do
  let (rows, _) ← use (← serve c) fetchAll
  pure rows

end Connection

namespace Desk

/-- A statement is used on the connection alone. -/
theorem onLink_use (statement : Connection.Statement L)
    (act : Attempt (Connection.Statement L × L) α) :
    OnLink (use statement act) (Connection.use statement act) :=
  .ask (Connection.use statement act)

/-- Its values are bound there. -/
theorem onLink_bindAll (params : Bindings) (statement : Connection.Statement L) :
    OnLink (bindAll statement params) (Connection.bindAll statement params) := by
  induction params generalizing statement with
  | nil => exact .pure statement
  | cons param rest ih =>
    exact (onLink_use statement (Connection.bind param.1 param.2)).bind fun answer => ih answer.2

/-- A rendered statement is served on the connection. -/
theorem onLink_runCompiled (c : Compiled) :
    OnLink (runCompiled c : Attempt (Desk L) _) (Connection.serve c) := by
  refine (OnLink.ask (Connection.prepare c.sql)).bind fun statement => ?_
  refine (onLink_bindAll c.params statement).bind fun statement => ?_
  exact (onLink_use statement Connection.execute).bind fun _ _ _ _ => ⟨_, rfl⟩

/-- Its first row is fetched from there. -/
theorem onLink_fetchFirst (c : Compiled) :
    OnLink (runCompiled c >>= fetchFirst : Attempt (Desk L) _) (Connection.firstRow c) :=
  (onLink_runCompiled c).bind fun statement =>
    (onLink_use statement Connection.fetch).bind fun _ => .pure _

/-- All its rows are fetched from there. -/
theorem onLink_fetchAll (c : Compiled) :
    OnLink (runCompiled c >>= fun statement => use statement Connection.fetchAll >>= fun answer =>
      pure answer.1 : Attempt (Desk L) _) (Connection.allRows c) :=
  (onLink_runCompiled c).bind fun statement =>
    (onLink_use statement Connection.fetchAll).bind fun _ => .pure _

end Desk

end BoundSql
