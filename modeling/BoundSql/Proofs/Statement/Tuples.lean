import BoundSql.Proofs.Query.Columns
import BoundSql.Proofs.Statement.Bindings

/-!
# The tuples of an insert

An insert of rows writes a tuple of placeholders for each row, one placeholder for each cell, and
together they are the placeholders of its bindings in order.
-/

namespace BoundSql

open Attempt

namespace Query

/-- The placeholders of rows, row by row, after the counter stood at `c`. -/
def tuples (d : Dialect) (c : Nat) : List (List Value) → List (List String)
  | [] => []
  | row :: rest => Expression.placeholders d c row.length :: tuples d (c + row.length) rest

variable {d : Dialect}

/-- There are as many placeholders as asked for. -/
theorem length_placeholders (d : Dialect) (c n : Nat) :
    (Expression.placeholders d c n).length = n := by
  simp [Expression.placeholders, Binder.issued]

/-- Placeholders in a row are those of the first names, and then of the others. -/
theorem placeholders_add (d : Dialect) (c m n : Nat) :
    Expression.placeholders d c (m + n) =
      Expression.placeholders d c m ++ Expression.placeholders d (c + m) n := by
  have hnext : c + m + 1 = c + 1 + m := by omega
  rw [Expression.placeholders, Binder.issued, ← List.range'_append_1, List.map_append,
    List.map_append, ← hnext]
  rfl

/-- A tuple has a placeholder for each cell of its row. -/
theorem length_tuples (d : Dialect) (c : Nat) (rows : List (List Value)) :
    (tuples d c rows).map List.length = rows.map List.length := by
  induction rows generalizing c with
  | nil => rfl
  | cons row rest ih => rw [tuples, List.map_cons, List.map_cons, length_placeholders, ih]

/-- The placeholders of all tuples are those of the next names, in order. -/
theorem flatten_tuples (d : Dialect) (c : Nat) (rows : List (List Value)) :
    (tuples d c rows).flatten = Expression.placeholders d c rows.flatten.length := by
  induction rows generalizing c with
  | nil => rfl
  | cons row rest ih =>
    rw [tuples, List.flatten_cons, ih, List.flatten_cons, List.length_append, placeholders_add]

/-- A tuple as it is written. -/
def tupleText (ps : List String) : String := "(" ++ String.intercalate "," ps ++ ")"

/-- Rows are written as their tuples. -/
theorem run_forAll_renderRow (rows : List (List Value)) (b : Binder) :
    (forAll rows (renderRow d)).run b =
      (.ok ((tuples d b.counter rows).map tupleText), b.bindAll rows.flatten) := by
  induction rows generalizing b with
  | nil => rfl
  | cons row rest ih =>
    rw [forAll, run_bind, renderRow, run_bind, Expression.run_forAll_placeholder]
    dsimp only
    rw [run_pure]
    dsimp only
    rw [run_bind, ih, List.flatten_cons, Binder.bindAll_append, Binder.counter_bindAll]
    rfl

/-- An insert of rows that renders names its columns and writes a tuple for each row. -/
theorem run_renderInsert_eq_ok {q : Query} {columns : List Value} {rows : List (List Value)}
    {b b' : Binder} {sql : String} (hdata : q.insert = some (.rows columns rows))
    (h : (renderInsert d q).run b = (.ok sql, b')) :
    ∃ names : List String, columns = names.map Value.text ∧
      sql = "INSERT INTO " ++ q.table.plain ++ " (" ++ String.intercalate "," names ++
        ") VALUES " ++ commas ((tuples d b.counter rows).map tupleText) ∧
      b' = b.bindAll rows.flatten := by
  unfold renderInsert at h
  rw [hdata] at h
  obtain ⟨_, mid, hrequired, hrows⟩ := run_bind_eq_ok h
  obtain ⟨_, rfl⟩ := run_ofExcept_eq_ok hrequired
  split at hrows
  · rename_i hsingle
    cases hsingle
  · rename_i hsome
    cases hsome
    obtain ⟨texts, mid', hwritten, hrest⟩ := run_bind_eq_ok hrows
    rw [run_forAll_renderRow] at hwritten
    cases hwritten
    obtain ⟨table, hwrite, hrest⟩ := run_ofExcept_bind_eq_ok hrest
    obtain ⟨_, rfl⟩ := Value.write_eq_ok.mp hwrite
    obtain ⟨names, hnames, hrest⟩ := run_ofExcept_bind_eq_ok hrest
    cases hrest
    exact ⟨names, eq_map_of_columnTexts hnames, rfl, rfl⟩
  · cases hrows

end Query

/-- A compiled insert of rows names its columns and has a tuple for each row, with a placeholder for
each of its cells; the placeholders of all tuples are those of the bindings. -/
theorem Builder.compile_tuples {b b' : Builder} {columns : List Value} {rows : List (List Value)}
    {c : Compiled} (hkind : b.query.kind = .insert)
    (hdata : b.query.insert = some (.rows columns rows)) (h : compile.run b = (.ok c, b')) :
    ∃ (names : List String) (tuples : List (List String)), columns = names.map Value.text ∧
      c.sql = "INSERT INTO " ++ b.query.table.plain ++ " (" ++ String.intercalate "," names ++
        ") VALUES " ++ Query.commas (tuples.map Query.tupleText) ∧
      tuples.map List.length = rows.map List.length ∧
      tuples.flatten = (Entries.keys c.params).map b.dialect.placeholder := by
  have hcompile : (renderWith (b.query.render b.dialect)).run b = (.ok c, b') := h
  obtain ⟨hrender, hparams⟩ := run_renderWith_eq_ok hcompile
  obtain ⟨_, mid, hrequired, hinsert⟩ := run_bind_eq_ok hrender
  obtain ⟨_, rfl⟩ := run_ofExcept_eq_ok hrequired
  rw [hkind] at hinsert
  obtain ⟨names, hcolumns, hsql, hbinder⟩ := Query.run_renderInsert_eq_ok hdata hinsert
  refine ⟨names, _, hcolumns, hsql, Query.length_tuples _ _ rows, ?_⟩
  rw [Query.flatten_tuples, hparams, hbinder, Binder.params_reset_bindAll, Binder.counter_reset,
    Entries.keys, List.map_fst_zip]
  · rfl
  · simp [Binder.issued]

end BoundSql
