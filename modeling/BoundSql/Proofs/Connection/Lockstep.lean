import BoundSql.Proofs.Attempt.Parallel
import BoundSql.Proofs.Connection.Line

/-!
# Connections in lockstep

Two connections go in lockstep when they answer every call alike, with the same rows, numbers and
failures, whatever values are bound. Lines to such connections stay in lockstep as well, and in a
transaction scope the same is reported on both.
-/

namespace BoundSql

open Attempt

/-- Pairs whose parts are related one by one. -/
def Both {α α' β β' : Type} (P : α → α' → Prop) (R : β → β' → Prop) (s : α × β) (s' : α' × β') :
    Prop :=
  P s.1 s'.1 ∧ R s.2 s'.2

/-- Relations between the states of two connections and between their prepared statements, under
which both answer every call alike. Only the values that are bound may differ. -/
structure Lockstep (L L' : Type) [Connection L] [Connection L'] where
  /-- The connections are in lockstep. -/
  link : L → L' → Prop
  /-- The statements are. -/
  statement : Connection.Statement L → Connection.Statement L' → Prop
  /-- The same texts are prepared alike, -/
  prepare : ∀ sql, Parallel link statement (Connection.prepare sql) (Connection.prepare sql)
  /-- any values are bound alike, -/
  bind : ∀ name value value', Parallel (Both statement link) Eq (Connection.bind name value)
    (Connection.bind name value')
  /-- and statements run alike. -/
  execute : Parallel (Both statement link) Eq Connection.execute Connection.execute
  /-- The next row is the same, -/
  fetch : Parallel (Both statement link) Eq Connection.fetch Connection.fetch
  /-- the rows that are left, -/
  fetchAll : Parallel (Both statement link) Eq Connection.fetchAll Connection.fetchAll
  /-- the number of changed rows, -/
  rowCount : Parallel (Both statement link) Eq Connection.rowCount Connection.rowCount
  /-- and the identifier of the row inserted last. -/
  lastInsertId : Parallel link Eq Connection.lastInsertId Connection.lastInsertId
  /-- A transaction is open on both or on neither. -/
  inTransaction : ∀ l l', link l l' → Connection.inTransaction l' = Connection.inTransaction l
  /-- Transactions begin alike, -/
  begin : Parallel link Eq Connection.begin Connection.begin
  /-- are committed alike, -/
  commit : Parallel link Eq Connection.commit Connection.commit
  /-- and rolled back alike. -/
  rollback : Parallel link Eq Connection.rollback Connection.rollback
  /-- The names of the tables are the same. -/
  tableNames : Parallel link Eq Connection.tableNames Connection.tableNames
  /-- Both can be closed. -/
  close : ∀ l l', link l l' → link (Connection.close l) (Connection.close l')
  /-- Both are adapters or neither is. -/
  wraps : Connection.wraps L' = Connection.wraps L

namespace Lockstep

variable {L L' : Type} [Connection L] [Connection L'] (k : Lockstep L L') {α β : Type}
  {Q : α → β → Prop}

/-- Lines to connections in lockstep, with the same log. -/
structure Lines (l : Line L) (l' : Line L') : Prop where
  /-- The connections are in lockstep, if there are any. -/
  link : Option.Rel k.link l.link l'.link
  /-- The same was reported. -/
  log : l'.log = l.log

/-- The same event is reported on both lines. -/
theorem parallel_report (e : LogEvent) : Parallel k.Lines Eq (Line.report e) (Line.report e) :=
  .update fun l l' h => ⟨h.link, by rw [h.log]⟩

/-- What the connections answer alike, the lines answer alike. -/
theorem parallel_ask (absent : Failure) {act : Attempt L α} {act' : Attempt L' β}
    (h : Parallel k.link Q act act') :
    Parallel k.Lines Q (Line.ask absent act) (Line.ask absent act') := by
  rintro ⟨link, log⟩ ⟨link', log'⟩ ⟨hlink, hlog⟩
  cases hlink with
  | none => exact ⟨.error absent, .none, hlog⟩
  | some hlink =>
    obtain ⟨hout, hend⟩ := h _ _ hlink
    exact ⟨hout, .some hend, hlog⟩

/-- A statement that was used stays in lockstep. -/
theorem parallel_use {statement : Connection.Statement L} {statement' : Connection.Statement L'}
    (hstatement : k.statement statement statement')
    {act : Attempt (Connection.Statement L × L) α}
    {act' : Attempt (Connection.Statement L' × L') β}
    (h : Parallel (Both k.statement k.link) Q act act') :
    Parallel k.Lines (Both Q k.statement) (Line.use statement act) (Line.use statement' act') := by
  have huse : Parallel k.link (Both Q k.statement) (Connection.use statement act)
      (Connection.use statement' act') := by
    intro link link' hlink
    obtain ⟨hout, hkept, hend⟩ := h (statement, link) (statement', link') ⟨hstatement, hlink⟩
    rw [Connection.run_use, Connection.run_use]
    refine ⟨?_, hend⟩
    generalize (act.run (statement, link)).1 = outcome at hout ⊢
    generalize (act'.run (statement', link')).1 = outcome' at hout ⊢
    cases hout with
    | ok hanswer => exact .ok ⟨hanswer, hkept⟩
    | error f => exact .error f
  exact k.parallel_ask .noConnection huse

/-- A transaction is open on both lines or on neither. -/
theorem parallel_inTransaction (absent : Failure) :
    Parallel k.Lines Eq (Line.ask absent (do return Connection.inTransaction (← .state)))
      (Line.ask absent (do return Connection.inTransaction (← .state))) := by
  refine k.parallel_ask absent (Parallel.state.bind fun l l' h => ?_)
  exact .pure (k.inTransaction l l' h).symm

/-- The begin or end of a transaction passes on both lines or on neither. -/
theorem parallel_signal (absent : Failure) (event : LogEvent) {act : Attempt L Unit}
    {act' : Attempt L' Unit} (h : Parallel k.link Eq act act') :
    Parallel k.Lines Eq (Line.signal absent act event) (Line.signal absent act' event) :=
  (k.parallel_ask absent h).bind fun _ _ _ => k.parallel_report event

section Scope

variable {σ σ' : Type} {R : σ → σ' → Prop} {line : Part σ (Line L)} {line' : Part σ' (Line L')}

/-- A scope ends alike, and the same is reported at its end: where the bodies failed, the failure is
the same. -/
theorem parallel_conclude (hget : ∀ s s', R s s' → k.Lines (line.get s) (line'.get s'))
    (hput : ∀ s s' l l', R s s' → k.Lines l l' → R (line.put l s) (line'.put l' s'))
    (absent : Failure) {outcome : Except Failure α} {outcome' : Except Failure β}
    (h : Agrees Q outcome outcome') :
    Parallel R Q (Line.conclude absent line outcome) (Line.conclude absent line' outcome') := by
  cases h with
  | ok hanswer =>
    refine Parallel.bind (.within hget hput (k.parallel_signal absent _ k.commit)) fun _ _ _ => ?_
    exact .pure hanswer
  | error f =>
    refine Parallel.bind (.within hget hput (k.parallel_signal absent _ k.rollback)) fun _ _ _ => ?_
    exact .fail f

/-- Bodies that run in parallel do so inside transactions. -/
theorem parallel_transactional (hget : ∀ s s', R s s' → k.Lines (line.get s) (line'.get s'))
    (hput : ∀ s s' l l', R s s' → k.Lines l l' → R (line.put l s) (line'.put l' s'))
    (absent : Failure) {body : Attempt σ α} {body' : Attempt σ' β} (h : Parallel R Q body body') :
    Parallel R Q (Line.transactional absent line body) (Line.transactional absent line' body') := by
  refine Parallel.bind (.within hget hput (k.parallel_inTransaction absent)) ?_
  rintro joins _ rfl
  cases joins with
  | true => exact h
  | false =>
    refine Parallel.bind (.within hget hput (k.parallel_signal absent _ k.begin)) fun _ _ _ => ?_
    exact h.outcome.bind fun _ _ hagrees => k.parallel_conclude hget hput absent hagrees

end Scope

end Lockstep

end BoundSql
