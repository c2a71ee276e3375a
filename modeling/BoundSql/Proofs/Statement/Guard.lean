import BoundSql.Proofs.Condition.Present
import BoundSql.Proofs.Statement.Bindings

/-!
# Guarded updates and deletes

An update or a delete always ends with a condition. It is the expression of the conditions of the
query wherever one of them writes something, and it is never true where the query has none, however
many empty groups there are.
-/

namespace BoundSql

open Attempt

namespace Expression

variable {d : Dialect} {keyword : String} {tokens : List Token} {b b' : Binder}

/-- The condition of a guard: an expression, or where it is empty the condition that is never
true. -/
def guarded (expression : String) : String :=
  if expression = "" then Test.alwaysFalse else expression

/-- A guard is never empty. -/
theorem guarded_ne_empty (expression : String) : guarded expression ≠ "" := by
  unfold guarded
  split
  · decide
  · assumption

/-- The condition of a guard holds what its expression holds. -/
theorem inOrder_guarded {parts : List String} {expression : String}
    (h : InOrder parts expression) : InOrder parts (guarded expression) := by
  unfold guarded
  split
  · rename_i hempty
    exact (hempty ▸ h).of_empty _
  · exact h

/-- A clause that guards is its keyword and the condition of the guard. -/
theorem run_renderClause_guarded {text : String}
    (h : (renderClause d keyword tokens true).run b = (.ok text, b')) :
    ∃ expression, (render d keyword tokens).run b = (.ok expression, b') ∧
      text = keyword ++ " " ++ guarded expression := by
  obtain ⟨expression, mid, hrender, hclause⟩ := run_bind_eq_ok h
  refine ⟨expression, ?_⟩
  unfold guarded
  split at hclause
  · rename_i hne
    cases hclause
    exact ⟨hrender, by rw [if_neg hne]⟩
  · rename_i hempty
    cases hclause
    exact ⟨hrender, by rw [if_pos (not_not.mp hempty)]⟩

end Expression

namespace Query

variable {d : Dialect} {q : Query}

/-- The columns that an update sets, each with a placeholder; the counter stands at `c` before. -/
def setTexts (d : Dialect) (c : Nat) (entries : Row) : List String :=
  List.zipWith (fun entry placeholder => entry.1.plain ++ " = " ++ placeholder) entries
    (Expression.placeholders d c entries.length)

/-- An update or a delete in front of its condition; the counter stands at `c` before. -/
def mutationText (d : Dialect) (c : Nat) (q : Query) : String :=
  match q.kind with
  | .update => "UPDATE " ++ q.table.plain ++ " SET " ++ commas (setTexts d c q.update)
  | _ => "DELETE FROM " ++ q.table.plain

/-- The values that a statement binds in front of its conditions. -/
def setValues (q : Query) : List Value :=
  match q.kind with
  | .update => Entries.values q.update
  | _ => []

/-- A column that is set is written with the next placeholder, and its value bound. -/
theorem run_renderSet_eq_ok {entry : Value × Value} {b b' : Binder} {text : String}
    (h : (renderSet d entry).run b = (.ok text, b')) :
    text = entry.1.plain ++ " = " ++ d.placeholder (Binder.nameOf (b.counter + 1)) ∧
      b' = (b.bind entry.2).2 := by
  obtain ⟨column, hcolumn, hrest⟩ := run_ofExcept_bind_eq_ok h
  obtain ⟨_, rfl⟩ := Value.write_eq_ok.mp hcolumn
  cases hrest
  exact ⟨rfl, rfl⟩

/-- The columns of an update are written in order, and their values bound so. -/
theorem run_forAll_renderSet_eq_ok {entries : Row} {b b' : Binder} {sets : List String}
    (h : (Attempt.forAll entries (renderSet d)).run b = (.ok sets, b')) :
    sets = setTexts d b.counter entries ∧ b' = b.bindAll (Entries.values entries) := by
  induction entries generalizing b sets with
  | nil =>
    cases h
    exact ⟨rfl, rfl⟩
  | cons entry rest ih =>
    obtain ⟨text, mid, hset, h⟩ := run_bind_eq_ok h
    obtain ⟨texts, mid', hsets, h⟩ := run_bind_eq_ok h
    cases h
    obtain ⟨rfl, rfl⟩ := run_renderSet_eq_ok hset
    obtain ⟨rfl, rfl⟩ := ih hsets
    exact ⟨by simp [setTexts, Expression.placeholders_succ], rfl⟩

/-- A guard stands behind the front of its statement. -/
theorem append_where (front expression : String) :
    front ++ " " ++ ("WHERE" ++ " " ++ expression) = front ++ " WHERE " ++ expression := by
  have hkeyword : " " ++ ("WHERE" ++ " ") = " WHERE " := rfl
  rw [← hkeyword]
  simp only [String.append_assoc]

/-- An update ends with the guarded expression of its conditions. -/
theorem run_renderUpdate {b b' : Binder} {sql : String}
    (h : (renderUpdate d q).run b = (.ok sql, b')) :
    ∃ expression,
      (Expression.render d "WHERE" q.wheres).run (b.bindAll (Entries.values q.update)) =
        (.ok expression, b') ∧
      sql = "UPDATE " ++ q.table.plain ++ " SET " ++ commas (setTexts d b.counter q.update) ++
        " WHERE " ++ Expression.guarded expression := by
  obtain ⟨_, mid, htable, hrest⟩ := run_bind_eq_ok h
  obtain ⟨_, rfl⟩ := run_ofExcept_eq_ok htable
  split at hrest
  · cases hrest
  · obtain ⟨sets, mid, hsets, hrest⟩ := run_bind_eq_ok hrest
    obtain ⟨rfl, rfl⟩ := run_forAll_renderSet_eq_ok hsets
    obtain ⟨wheres, mid, hwheres, hrest⟩ := run_bind_eq_ok hrest
    obtain ⟨table, hwrite, hrest⟩ := run_ofExcept_bind_eq_ok hrest
    obtain ⟨_, rfl⟩ := Value.write_eq_ok.mp hwrite
    cases hrest
    obtain ⟨expression, hrender, rfl⟩ := Expression.run_renderClause_guarded hwheres
    exact ⟨expression, hrender, append_where ..⟩

/-- A delete ends with the guarded expression of its conditions. -/
theorem run_renderDelete {b b' : Binder} {sql : String}
    (h : (renderDelete d q).run b = (.ok sql, b')) :
    ∃ expression, (Expression.render d "WHERE" q.wheres).run b = (.ok expression, b') ∧
      sql = "DELETE FROM " ++ q.table.plain ++ " WHERE " ++ Expression.guarded expression := by
  obtain ⟨_, mid, htable, hrest⟩ := run_bind_eq_ok h
  obtain ⟨_, rfl⟩ := run_ofExcept_eq_ok htable
  obtain ⟨wheres, mid, hwheres, hrest⟩ := run_bind_eq_ok hrest
  obtain ⟨table, hwrite, hrest⟩ := run_ofExcept_bind_eq_ok hrest
  obtain ⟨_, rfl⟩ := Value.write_eq_ok.mp hwrite
  cases hrest
  obtain ⟨expression, hrender, rfl⟩ := Expression.run_renderClause_guarded hwheres
  exact ⟨expression, hrender, append_where ..⟩

/-- An update or a delete is its front and the guarded expression of its conditions. -/
theorem render_eq_guarded {b b' : Binder} {sql : String}
    (hkind : q.kind = .update ∨ q.kind = .delete) (h : (q.render d).run b = (.ok sql, b')) :
    ∃ expression,
      (Expression.render d "WHERE" q.wheres).run (b.bindAll q.setValues) = (.ok expression, b') ∧
      sql = mutationText d b.counter q ++ " WHERE " ++ Expression.guarded expression := by
  obtain ⟨_, mid, htable, hrest⟩ := run_bind_eq_ok h
  obtain ⟨_, rfl⟩ := run_ofExcept_eq_ok htable
  unfold mutationText setValues
  rcases hkind with hkind | hkind
  · rw [hkind] at hrest ⊢
    exact run_renderUpdate hrest
  · rw [hkind] at hrest ⊢
    exact run_renderDelete hrest

end Query

namespace Builder

/-- An update or a delete that renders ends with a condition. Without any test it is the one that is
never true, and binds nothing; as soon as a test writes something it is the expression of the tests,
in which all of them stand in their order. -/
theorem compile_guarded {b b' : Builder} {c : Compiled}
    (hkind : b.query.kind = .update ∨ b.query.kind = .delete)
    (hcompile : compile.run b = (.ok c, b')) :
    let values := b.query.setValues ++ Query.conditionValues b.query.wheres
    let inside := b.binder.reset.bindAll b.query.setValues
    let texts := Expression.texts b.dialect inside.counter b.query.wheres
    ∃ e, c.sql = Query.mutationText b.dialect b.binder.counter b.query ++ " WHERE " ++ e ∧ e ≠ "" ∧
      c.params = (Binder.issued b.binder.counter values.length).zip values ∧
      ((∀ token ∈ b.query.wheres, ¬token.IsTest) →
        e = "1=0" ∧ Query.conditionValues b.query.wheres = []) ∧
      ((∃ text ∈ texts, text ≠ "") →
        ((Expression.render b.dialect "WHERE" b.query.wheres).run inside).1 = .ok e ∧
          Expression.InOrder texts e) := by
  intro values inside texts
  have hrun : compile.run b = (renderWith (b.query.render b.dialect)).run b := rfl
  rw [hrun, run_renderWith] at hcompile
  rcases hrender : (b.query.render b.dialect).run b.binder.reset with ⟨outcome, binder⟩
  rw [hrender] at hcompile
  cases outcome with
  | error f => cases hcompile
  | ok sql =>
    cases hcompile
    obtain ⟨expression, hexpression, hsql⟩ := Query.render_eq_guarded hkind hrender
    have hbound : b.query.boundValues = values := by
      dsimp only [values]
      unfold Query.boundValues Query.setValues
      rcases hkind with hkind | hkind <;> rw [hkind]
      rfl
    have hparams : binder.params = (Binder.issued b.binder.counter values.length).zip values := by
      rw [← hbound, Query.binds_render _ _ _ _ _ hrender, Binder.params_reset_bindAll]
    refine ⟨Expression.guarded expression, hsql, Expression.guarded_ne_empty expression, hparams,
      fun hnone => ⟨?_, Expression.values_eq_nil hnone⟩, fun ⟨text, hm, htext⟩ => ?_⟩
    · rw [Expression.render_eq_empty hnone hexpression]
      rfl
    · have hholds : Expression.InOrder texts expression := Expression.inOrder_render hexpression
      have hkept : Expression.guarded expression = expression := if_neg (hholds.ne_empty hm htext)
      rw [hkept, hexpression]
      exact ⟨rfl, hholds⟩

/-- An update with a condition inside groups of which one is empty, and a delete with empty groups
only. -/
theorem compile_guarded_nested :
    let updating : Builder :=
      { query := { Query.fresh with
          table := .text "t", kind := .update, update := [(.text "a", .int 1)]
          wheres := [.opening .and, .opening .or, .closing,
            .test .or (.compare (.text "b") (.text "<") (.int 5)), .closing,
            .test .or (.raw (.text "c"))] }
        binder := .fresh
        dialect := .ofTarget .sqlite }
    let deleting : Builder :=
      { query := { Query.fresh with
          table := .text "t", kind := .delete
          wheres := [.opening .and, .opening .or, .closing, .closing] }
        binder := .fresh
        dialect := .ofTarget .sqlite }
    let sql := fun b : Builder => (compile.run b).1.toOption.map Compiled.sql
    sql updating = some "UPDATE t SET a = :p1 WHERE (b < :p2) OR c" ∧
      sql deleting = some "DELETE FROM t WHERE 1=0" ∧
      (updating.query.kind = .update ∨ updating.query.kind = .delete) ∧
      (∀ c b', compile.run updating = (.ok c, b') →
        ∃ e, c.sql = "UPDATE t SET a = :p1" ++ " WHERE " ++ e ∧
          Expression.InOrder ["b < :p2", "c"] e) ∧
      (deleting.query.kind = .update ∨ deleting.query.kind = .delete) ∧
      ∀ c b', compile.run deleting = (.ok c, b') → c.params = [] := by
  intro updating deleting sql
  refine ⟨by decide +kernel, by decide +kernel, .inl rfl, fun c b' hcompile => ?_, .inr rfl,
    fun c b' hcompile => ?_⟩
  · obtain ⟨e, hsql, _, _, _, hkept⟩ := compile_guarded (.inl rfl) hcompile
    have hfront : Query.mutationText updating.dialect updating.binder.counter updating.query =
        "UPDATE t SET a = :p1" := by decide +kernel
    have htexts : Expression.texts updating.dialect
        (updating.binder.reset.bindAll updating.query.setValues).counter updating.query.wheres =
          ["b < :p2", "c"] := by decide +kernel
    rw [hfront] at hsql
    rw [htexts] at hkept
    exact ⟨e, hsql, (hkept ⟨"c", by decide, by decide⟩).2⟩
  · obtain ⟨e, _, _, hparams, _⟩ := compile_guarded (.inr rfl) hcompile
    exact hparams

end Builder

end BoundSql
