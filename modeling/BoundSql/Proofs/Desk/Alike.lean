import BoundSql.Page
import BoundSql.Proofs.Connection.Lockstep
import BoundSql.Proofs.Statement.Alike

/-!
# Desks in lockstep

Two builders that differ in bound values only, at lines in lockstep, stay so through every call that
runs statements: the same texts are prepared, the calls answer the same or fail with the same
failure, and the same is reported.
-/

namespace BoundSql

open Attempt

variable {L L' : Type} [Connection L] [Connection L']

/-- Builders that are alike, at lines in lockstep. -/
structure Desk.Alike (k : Lockstep L L') (d : Desk L) (d' : Desk L') : Prop where
  /-- The builders are alike. -/
  builder : Builder.Alike d.builder d'.builder
  /-- The lines are in lockstep. -/
  line : k.Lines d.line d'.line

namespace Desk

variable (k : Lockstep L L')

/-- What a builder does alike, the desk does alike. -/
theorem parallel_onBuilder {α : Type} {Q : α → α → Prop} {act : Attempt Builder α}
    (h : Parallel Builder.Alike Q act act) :
    Parallel (Alike k) Q (act.within builderPart) (act.within builderPart) :=
  .within (fun _ _ hd => hd.builder) (fun _ _ _ _ hd hb => ⟨hb, hd.line⟩) h

/-- What a query does alike, the desk does alike. -/
theorem parallel_onQuery {α : Type} {Q : α → α → Prop} {act act' : Attempt Query α}
    (h : Parallel Query.Alike Q act act') :
    Parallel (Alike k) Q (act.within queryPart) (act'.within queryPart) :=
  .within (fun _ _ hd => hd.builder.query)
    (fun _ _ _ _ hd hq => ⟨⟨hq, hd.builder.binder, hd.builder.dialect⟩, hd.line⟩) h

/-- What happens on the line alike, happens at the desk alike. -/
theorem parallel_onLine {α β : Type} {Q : α → β → Prop} {act : Attempt (Line L) α}
    {act' : Attempt (Line L') β} (h : Parallel k.Lines Q act act') :
    Parallel (Alike k) Q (act.within linePart) (act'.within linePart) :=
  .within (fun _ _ hd => hd.line) (fun _ _ _ _ hd hl => ⟨hd.builder, hl⟩) h

/-- A change of the query that does not depend on values. -/
theorem parallel_change {g : Query → Query}
    (hdata : ∀ q data, { (g q).mapValues Value.forget with insert := data } =
      g { q.mapValues Value.forget with insert := data })
    (hinsert : ∀ q, (g q).insert = q.insert) :
    Parallel (Alike k) Eq ((Attempt.update g).within queryPart)
      ((Attempt.update g).within queryPart) :=
  parallel_onQuery k (.update fun _ _ h => h.change hdata hinsert)

/-- A call that builds the query is made alike on both desks. -/
theorem parallel_clause (call : Clause) :
    Parallel (Alike k) Eq (call.apply.within queryPart) (call.apply.within queryPart) :=
  parallel_onQuery k (Clause.Alike.parallel rfl)

section Statements

variable {k} {statement : Connection.Statement L} {statement' : Connection.Statement L'}

/-- A statement is used alike where the connections do so. -/
theorem parallel_use {α β : Type} {Q : α → β → Prop}
    (hstatement : k.statement statement statement')
    {act : Attempt (Connection.Statement L × L) α} {act' : Attempt (Connection.Statement L' × L') β}
    (h : Parallel (Both k.statement k.link) Q act act') :
    Parallel (Alike k) (Both Q k.statement) (use statement act) (use statement' act') :=
  parallel_onLine k (k.parallel_use hstatement h)

/-- As many values are bound under the same names, whatever they are. -/
theorem parallel_bindAll (hstatement : k.statement statement statement')
    {params params' : Bindings} (hnames : Entries.keys params' = Entries.keys params) :
    Parallel (Alike k) k.statement (bindAll statement params) (bindAll statement' params') := by
  induction params generalizing params' statement statement' with
  | nil =>
    cases params' with
    | nil => exact .pure hstatement
    | cons entry rest => cases hnames
  | cons entry rest ih =>
    cases params' with
    | nil => cases hnames
    | cons entry' rest' =>
      obtain ⟨name, value⟩ := entry
      obtain ⟨name', value'⟩ := entry'
      obtain ⟨hname, hrest⟩ := List.cons.inj hnames
      cases hname
      exact (parallel_use hstatement (k.bind name value value')).bind fun _ _ hused =>
        ih hused.2 hrest

/-- Statements of the same text run alike, and the same is reported of them. -/
theorem parallel_runCompiled {c c' : Compiled} (hc : c.Alike c') :
    Parallel (Alike k) k.statement (runCompiled c) (runCompiled c') := by
  have hlength : c'.params.length = c.params.length := by
    have hkeys := congrArg List.length hc.names
    rwa [Entries.keys, Entries.keys, List.length_map, List.length_map] at hkeys
  unfold runCompiled
  rw [hc.sql, hlength]
  refine (parallel_onLine k (k.parallel_ask _ (k.prepare c.sql))).bind ?_
  intro statement statement' hstatement
  refine (parallel_bindAll hstatement hc.names).bind ?_
  intro statement statement' hstatement
  refine (parallel_use hstatement k.execute).bind ?_
  rintro ⟨_, statement⟩ ⟨_, statement'⟩ ⟨_, hstatement⟩
  refine Parallel.state.bind fun d d' hd => ?_
  rw [hd.builder.query.kind]
  exact (parallel_onLine k (k.parallel_report _)).bind fun _ _ _ => .pure hstatement

/-- The first row is the same, or there is none. -/
theorem parallel_fetchFirst (hstatement : k.statement statement statement') :
    Parallel (Alike k) Eq (fetchFirst statement) (fetchFirst statement') :=
  (parallel_use hstatement k.fetch).bind fun _ _ hused => .pure hused.1

end Statements

/-- Statements that are alike are prepared, and then in lockstep. -/
theorem parallel_run : Parallel (Alike k) k.statement run run :=
  (parallel_onBuilder k (Builder.parallel_of_image Builder.parallel_compile)).bind fun _ _ hc =>
    parallel_runCompiled hc

/-- All rows are the same. -/
theorem parallel_get : Parallel (Alike k) Eq get get :=
  (parallel_run k).bind fun _ _ hstatement =>
    (parallel_use hstatement k.fetchAll).bind fun _ _ hused => .pure hused.1

/-- The first row is the same. -/
theorem parallel_first : Parallel (Alike k) Eq first first := by
  refine Parallel.bind (parallel_change k (fun _ _ => rfl) fun _ => rfl) fun _ _ _ => ?_
  exact (parallel_run k).bind fun _ _ hstatement => parallel_fetchFirst hstatement

/-- Its value in a column is the same. -/
theorem parallel_value (column : Value) : Parallel (Alike k) Eq (value column) (value column) := by
  refine (parallel_first k).bind ?_
  rintro row _ rfl
  cases row with
  | none => exact .pure rfl
  | some row =>
    dsimp only
    split
    · exact .pure rfl
    · exact .fail _

/-- A call for one kind of query is refused by both or by neither. -/
theorem parallel_requireKind (call : KindedCall) :
    Parallel (Alike k) Eq ((Builder.requireKind call).within builderPart)
      ((Builder.requireKind call).within builderPart) :=
  parallel_onBuilder k (Builder.parallel_requireKind call)

/-- The counts are the same: both are read off the same first row. -/
theorem parallel_count : Parallel (Alike k) Eq count count := by
  refine (parallel_requireKind k .count).bind fun _ _ _ => Parallel.state.bind fun d d' hd => ?_
  rw [hd.builder.query.columns]
  have hcounting : Parallel (Alike k) Eq
      (do
        (Attempt.update fun q => { q with columns := [.text Query.countColumn] }).within queryPart
        fetchFirst (← run))
      (do
        (Attempt.update fun q => { q with columns := [.text Query.countColumn] }).within queryPart
        fetchFirst (← run)) := by
    refine Parallel.bind (parallel_change k (fun _ _ => rfl) fun _ => rfl) fun _ _ _ => ?_
    exact (parallel_run k).bind fun _ _ hstatement => parallel_fetchFirst hstatement
  refine Parallel.bind (.ensuring (fun d d' hd => ?_) hcounting) ?_
  · refine ⟨⟨?_, hd.builder.binder, hd.builder.dialect⟩, hd.line⟩
    exact hd.builder.query.change (g := fun q => { q with columns := _ }) (fun _ _ => rfl)
      fun _ => rfl
  · rintro row _ rfl
    exact .ofExcept (.refl _)

/-- Both connections change as many rows. -/
theorem parallel_execute : Parallel (Alike k) Eq execute execute :=
  (parallel_run k).bind fun _ _ hstatement =>
    (parallel_use hstatement k.rowCount).bind fun _ _ hused => .pure hused.1

/-- Both connections know the same last identifier. -/
theorem parallel_lastInsertId : Parallel (Alike k) Eq lastInsertId lastInsertId :=
  parallel_onLine k (k.parallel_ask _ k.lastInsertId)

/-- Both insert under the same identifier. -/
theorem parallel_insertGetId : Parallel (Alike k) Eq insertGetId insertGetId :=
  (parallel_requireKind k .insertGetId).bind fun _ _ _ =>
    (parallel_run k).bind fun _ _ _ => parallel_lastInsertId k

/-- What runs in parallel does so also when the builder is put back afterwards. -/
theorem parallel_preserving {α : Type} {Q : α → α → Prop} {act : Attempt (Desk L) α}
    {act' : Attempt (Desk L') α} (h : Parallel (Alike k) Q act act') :
    Parallel (Alike k) Q (Attempt.preserving builderPart act)
      (Attempt.preserving builderPart act') :=
  .preserving (fun _ _ hd => hd.builder) (fun _ _ _ _ hd hb => ⟨hb, hd.line⟩) h

/-- The totals are the same, and both builders are put back. -/
theorem parallel_countTotal : Parallel (Alike k) Eq countTotal countTotal := by
  have hrow : Parallel (Alike k) Eq
      (do fetchFirst (← runCompiled (← Builder.compileCount.within builderPart)))
      (do fetchFirst (← runCompiled (← Builder.compileCount.within builderPart))) := by
    refine (parallel_onBuilder k
      (Builder.parallel_of_image Builder.parallel_compileCount)).bind fun _ _ hc => ?_
    exact (parallel_runCompiled hc).bind fun _ _ hstatement => parallel_fetchFirst hstatement
  refine (parallel_preserving k hrow).bind ?_
  rintro row _ rfl
  refine .ofExcept_bind fun total _ => Parallel.state.bind fun d d' hd => ?_
  rw [hd.builder.query.isGrouped]
  exact (parallel_onLine k (k.parallel_report _)).bind fun _ _ _ => .pure rfl

/-- The rows of a window are the same, and both builders are put back. -/
theorem parallel_window (size : Number) (before : Int) :
    Parallel (Alike k) Eq (window size before) (window size before) := by
  refine (parallel_clause k (.limit size.value)).bind fun _ _ _ => ?_
  refine .ofExcept_bind fun start _ => ?_
  exact (parallel_clause k (.offset start.value)).bind fun _ _ _ => parallel_get k

/-- A page is the same, or refused with the same failure. -/
theorem parallel_paginate (settings : Settings) (page perPage : Option Value) :
    Parallel (Alike k) Eq (paginate settings page perPage) (paginate settings page perPage) := by
  refine .ofExcept_bind fun page _ => .ofExcept_bind fun size _ => ?_
  have hpart : Parallel (Alike k) Eq
      (do
        let total ← countTotal
        let rows ← window size (max 1 page - 1)
        pure (total, rows))
      (do
        let total ← countTotal
        let rows ← window size (max 1 page - 1)
        pure (total, rows)) := by
    refine (parallel_countTotal k).bind ?_
    rintro total _ rfl
    refine (parallel_window k size _).bind ?_
    rintro rows _ rfl
    exact .pure rfl
  refine (parallel_preserving k hpart).bind ?_
  rintro answer _ rfl
  exact .ofExcept_bind fun pageCount _ => .ofExcept (.refl _)

end Desk

end BoundSql
