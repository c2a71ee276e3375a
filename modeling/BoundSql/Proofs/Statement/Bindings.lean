import BoundSql.Builder
import BoundSql.Proofs.Condition.Written
import BoundSql.Proofs.Query.Values

/-!
# The bindings of a statement

Each kind of statement binds its values in the order of its text, and a statement that renders has
bound all of them. A render starts from a reset, so the bindings it answers with are exactly these
values under the names issued next, and the counter has moved by their number.
-/

namespace BoundSql

namespace Query

open Attempt

variable (d : Dialect) (q : Query)

/-- A select binds the values of its conditions on rows, then those of its conditions on groups. -/
theorem binds_renderSelect (columns : List Value) (withTail : Bool) :
    (renderSelect d q columns withTail).Binds
      (conditionValues q.wheres ++ conditionValues q.having) := by
  refine .ofExcept_bind fun _ _ => .ofExcept_bind fun _ _ => .ofExcept_bind fun table _ => ?_
  refine (Expression.binds_renderClause d "WHERE" q.wheres false).bind fun wheres => ?_
  refine .ofExcept_bind fun groups _ => ?_
  refine (Expression.binds_renderClause d "HAVING" q.having false).bind_nil fun having => ?_
  exact .ofExcept_bind fun tail _ => .pure _

/-- A count binds what its select binds. -/
theorem binds_renderCount :
    (renderCount d q).Binds (conditionValues q.wheres ++ conditionValues q.having) := by
  unfold renderCount
  split
  · exact (binds_renderSelect d q q.columns false).bind_nil fun inner => .pure _
  · exact binds_renderSelect d q [.text countColumn] false

/-- A row binds its values. -/
theorem binds_renderRow (values : List Value) : (renderRow d values).Binds values := by
  have hall : (Attempt.forAll values (Expression.placeholder d)).Binds values := by
    intro b ps b' h
    rw [Expression.run_forAll_placeholder] at h
    cases h
    rfl
  exact hall.bind_nil fun ps => .pure _

/-- Rows are bound one after another, each in the order of the columns. -/
theorem binds_renderRows (columns : List Value) (rows : List (List Value)) :
    (renderRows d q columns rows).Binds rows.flatten := by
  have hrows : (Attempt.forAll rows (renderRow d)).Binds rows.flatten := by
    rw [← List.flatMap_id]
    exact .forAll fun row _ => binds_renderRow d row
  exact hrows.bind_nil fun texts =>
    .ofExcept_bind fun table _ => .ofExcept_bind fun columns _ => .pure _

/-- An insert binds its values row by row. -/
theorem binds_renderInsert :
    (renderInsert d q).Binds ((q.insert.map InsertData.values).getD []) := by
  refine .ofExcept_bind fun _ _ => ?_
  cases q.insert with
  | none => exact .fail _ _
  | some data =>
    cases data with
    | single row =>
      cases row with
      | nil => exact .fail _ _
      | cons entry row =>
        have h := binds_renderRows d q (Entries.keys (entry :: row)) [Entries.values (entry :: row)]
        rwa [List.flatten_singleton] at h
    | rows columns cells =>
      cases columns with
      | nil => exact .fail _ _
      | cons column columns =>
        cases cells with
        | nil => exact .fail _ _
        | cons row rest => exact binds_renderRows d q (column :: columns) (row :: rest)

/-- A column is set to the value that is bound for it. -/
theorem binds_renderSet (entry : Value × Value) : (renderSet d entry).Binds [entry.2] := by
  refine .ofExcept_bind fun column _ b text b' h => ?_
  cases h
  rfl

/-- An update binds its new values in the order of the columns, then those of its conditions. -/
theorem binds_renderUpdate :
    (renderUpdate d q).Binds (Entries.values q.update ++ conditionValues q.wheres) := by
  refine .ofExcept_bind fun _ _ => ?_
  split
  · exact .fail _ _
  · have hsets : (Attempt.forAll q.update (renderSet d)).Binds (Entries.values q.update) := by
      have hall := Binds.forAll fun entry (_ : entry ∈ q.update) => binds_renderSet d entry
      rwa [← List.map_eq_flatMap] at hall
    refine hsets.bind fun sets => ?_
    exact (Expression.binds_renderClause d "WHERE" q.wheres true).bind_nil fun wheres =>
      .ofExcept_bind fun table _ => .pure _

/-- A delete binds the values of its conditions. -/
theorem binds_renderDelete : (renderDelete d q).Binds (conditionValues q.wheres) := by
  refine .ofExcept_bind fun _ _ => ?_
  exact (Expression.binds_renderClause d "WHERE" q.wheres true).bind_nil fun wheres =>
    .ofExcept_bind fun table _ => .pure _

/-- A statement that renders has bound the values of its kind, in the order of its text. -/
theorem binds_render : (q.render d).Binds q.boundValues := by
  refine .ofExcept_bind fun _ _ => ?_
  unfold boundValues
  cases q.kind with
  | select => exact binds_renderSelect d q q.columns true
  | insert => exact binds_renderInsert d q
  | update => exact binds_renderUpdate d q
  | delete => exact binds_renderDelete d q
  | unset => exact .fail _ _
  | unknown name => exact .fail _ _

end Query

namespace Builder

/-- A render runs its text from a reset binder and answers with the bindings made since. -/
theorem run_renderWith (text : Attempt Binder String) (b : Builder) :
    (renderWith text).run b =
      match text.run b.binder.reset with
      | (.ok sql, binder) => (.ok ⟨sql, binder.params, b.dialect.name⟩, { b with binder })
      | (.error failure, binder) => (.error failure, { b with binder }) := by
  rw [renderWith, Attempt.run_bind, Attempt.run_update]
  dsimp only
  rw [Attempt.run_bind, Attempt.run_within]
  simp only [binderPart]
  rcases text.run b.binder.reset with ⟨outcome, binder⟩
  cases outcome with
  | ok sql => rfl
  | error failure => rfl

/-- Builders with the same reset binder and dialect render a text in the same way. -/
theorem renderWith_congr (text : Attempt Binder String) {b b' : Builder}
    (hreset : b'.binder.reset = b.binder.reset) (hdialect : b'.dialect = b.dialect) :
    ((renderWith text).run b').1 = ((renderWith text).run b).1 ∧
      ((renderWith text).run b').2.binder = ((renderWith text).run b).2.binder := by
  rw [run_renderWith, run_renderWith, hreset, hdialect]
  rcases text.run b.binder.reset with ⟨failure | sql, binder⟩ <;> exact ⟨rfl, rfl⟩

/-- A render that came to an answer has written its text from a reset binder. -/
theorem run_renderWith_eq_ok {text : Attempt Binder String} {b b' : Builder} {c : Compiled}
    (h : (renderWith text).run b = (.ok c, b')) :
    text.run b.binder.reset = (.ok c.sql, b'.binder) ∧ c.params = b'.binder.params := by
  rw [run_renderWith] at h
  rcases hrun : text.run b.binder.reset with ⟨outcome, binder⟩
  rw [hrun] at h
  cases outcome with
  | ok sql =>
    cases h
    exact ⟨rfl, rfl⟩
  | error failure => cases h

end Builder

end BoundSql
