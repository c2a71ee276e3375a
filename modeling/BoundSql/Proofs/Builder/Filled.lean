import BoundSql.Proofs.Query.Layout

/-!
# What compiling answers

The layout of a query does not change when its values are erased. Compiling a builder in a closed
dialect fills this layout with the placeholders of the names issued next, and binds to these names,
in the order of the text, exactly the values that a statement of its kind binds.
-/

namespace BoundSql

namespace Query

/-- The query with its values erased. -/
def erased (q : Query) : Query := q.mapValues fun _ => .null

variable (f : Value → Value)

/-- The draft of a list does not depend on its values. -/
theorem steps_mapValues (clause : String) (p : Draft) (tokens : List Token) :
    Draft.steps clause p (tokens.map (Token.mapValues f)) = Draft.steps clause p tokens := by
  have hstep : ∀ (p : Draft) (token : Token),
      Draft.step clause p (token.mapValues f) = Draft.step clause p token := by
    intro p token
    cases token with
    | test connector t =>
      simp only [Token.mapValues, Draft.step, Draft.addTest, Test.layout_mapValues,
        Test.isWritable_mapValues, Test.isText_mapValues]
    | _ => rfl
  induction tokens generalizing p with
  | nil => rfl
  | cons token rest ih => simp only [List.map_cons, Draft.steps, hstep, ih]

theorem clauseLayout_mapValues (keyword : String) (tokens : List Token) (guarded : Bool) :
    Expression.clauseLayout keyword (tokens.map (Token.mapValues f)) guarded =
      Expression.clauseLayout keyword tokens guarded := by
  simp only [Expression.clauseLayout, Expression.layout, steps_mapValues]

theorem selectLayout_mapValues (q : Query) (columns : List Value) (withTail : Bool) :
    (q.mapValues f).selectLayout columns withTail = q.selectLayout columns withTail := by
  simp only [selectLayout, mapValues, clauseLayout_mapValues]
  rfl

theorem countLayout_mapValues (q : Query) : (q.mapValues f).countLayout = q.countLayout := by
  have hgrouped : (q.mapValues f).isGrouped = q.isGrouped := by simp [isGrouped, mapValues]
  simp only [countLayout, hgrouped, selectLayout_mapValues]
  rfl

/-- Rows are laid out by their lengths. -/
theorem rowsLayout_map (q : Query) (columns : List Value) (rows : List (List Value)) :
    q.rowsLayout columns (rows.map (List.map f)) = q.rowsLayout columns rows := by
  have hrow : ∀ row : List Value, rowLayout (row.map f) = rowLayout row := by
    intro row
    simp only [rowLayout, List.length_map]
  simp only [rowsLayout, List.map_map, Function.comp_def, hrow]

/-- The layout of an insert does not depend on its values. -/
theorem insertLayout_mapValues (q : Query) : (q.mapValues f).insertLayout = q.insertLayout := by
  have hinsert : (q.mapValues f).insert = q.insert.map (InsertData.mapValues f) := rfl
  unfold insertLayout
  rw [hinsert]
  refine congrArg (q.requireTable >>= ·) (funext fun _ => ?_)
  cases q.insert with
  | none => rfl
  | some data =>
    cases data with
    | single row =>
      cases row with
      | nil => rfl
      | cons entry row =>
        have h := rowsLayout_map f q (Entries.keys (entry :: row)) [Entries.values (entry :: row)]
        rw [List.map_singleton, ← Entries.values_mapValues] at h
        nth_rewrite 1 [← Entries.keys_mapValues f (entry :: row)] at h
        exact h
    | rows columns cells =>
      cases columns with
      | nil => rfl
      | cons column columns =>
        cases cells with
        | nil => rfl
        | cons row rest => exact rowsLayout_map f q (column :: columns) (row :: rest)

theorem updateLayout_mapValues (q : Query) : (q.mapValues f).updateLayout = q.updateLayout := by
  have hsets : (Entries.mapValues f q.update).mapM setLayout = q.update.mapM setLayout := by
    simp only [Entries.mapValues, List.mapM_map]
    rfl
  have hempty : (Entries.mapValues f q.update).isEmpty = q.update.isEmpty := by
    simp [Entries.mapValues]
  simp only [updateLayout, mapValues, clauseLayout_mapValues, hsets, hempty]
  rfl

theorem deleteLayout_mapValues (q : Query) : (q.mapValues f).deleteLayout = q.deleteLayout := by
  simp only [deleteLayout, mapValues, clauseLayout_mapValues]
  rfl

/-- The layout of a statement does not depend on the values it binds. -/
theorem layout_mapValues (q : Query) : (q.mapValues f).layout = q.layout := by
  have hkind : (q.mapValues f).kind = q.kind := rfl
  have hcolumns : (q.mapValues f).columns = q.columns := rfl
  have htable : (q.mapValues f).requireTable = q.requireTable := rfl
  simp only [layout, hkind, hcolumns, htable, selectLayout_mapValues, insertLayout_mapValues,
    updateLayout_mapValues, deleteLayout_mapValues]

end Query

namespace Builder

/-- A render came to a layout filled with the placeholders of the names issued next, bound its
values to these names in order, and left the counter behind the last of them; or it failed as the
layout does. -/
structure Filled (b : Builder) (lay : Except Failure Layout) (vs : List Value)
    (r : Except Failure Compiled × Builder) : Prop where
  /-- The answer is the filled layout with its bindings. -/
  answer : r.1 = lay.map fun t =>
    ⟨t.fill b.dialect b.binder.counter, (Binder.issued b.binder.counter vs.length).zip vs,
      b.dialect.name⟩
  /-- There is a slot for each value. -/
  slots : ∀ t, lay = .ok t → t.slots = vs.length
  /-- The names are pairwise distinct. -/
  names : (Binder.issued b.binder.counter vs.length).Nodup
  /-- Each value has moved the counter by one. -/
  counter : ∀ t, lay = .ok t → r.2.binder.counter = b.binder.counter + vs.length
  /-- The query stays as it is. -/
  query : r.2.query = b.query

/-- A render that fills a layout fills it in the builder. -/
theorem filled_renderWith {b : Builder} {text : Attempt Binder String}
    {lay : Except Failure Layout} {vs : List Value}
    (hfills : Query.Fills b.dialect b.binder.reset.counter text b.binder.reset lay vs.length)
    (hvs : text.Binds vs) : Filled b lay vs ((renderWith text).run b) := by
  have htext := hfills.text
  rcases hrun : text.run b.binder.reset with ⟨outcome, binder⟩
  rw [hrun] at htext
  cases htext
  rw [run_renderWith, hrun]
  have hnames := Binder.nodup_issued b.binder.counter vs.length
  cases lay with
  | error failure =>
    refine ⟨rfl, hfills.slots, hnames, fun _ ht => ?_, rfl⟩
    cases ht
  | ok t =>
    have hbinder := hvs _ _ _ hrun
    refine ⟨?_, hfills.slots, hnames, fun _ _ => ?_, rfl⟩
    · simp only [Except.map, hbinder, Binder.params_reset_bindAll, Binder.counter_reset]
    · simp only [hbinder, Binder.counter_bindAll, Binder.counter_reset]

/-- Compiling fills the layout of the query with its values erased. -/
theorem compile_filled (b : Builder) (hd : b.dialect.Closed) :
    Filled b b.query.erased.layout b.query.boundValues (compile.run b) ∧
      (b.query.kind = .select →
        Filled b b.query.erased.countLayout b.query.boundValues (compileCount.run b)) := by
  constructor
  · rw [Query.erased, Query.layout_mapValues]
    exact filled_renderWith (Query.fills_render hd b.query b.binder.reset)
      (Query.binds_render b.dialect b.query)
  · intro hkind
    rw [Query.erased, Query.countLayout_mapValues]
    have hvs := Query.binds_renderCount b.dialect b.query
    have hfills := Query.fills_count hd b.query b.binder.reset
    have hvalues : b.query.boundValues =
        Query.conditionValues b.query.wheres ++ Query.conditionValues b.query.having := by
      rw [Query.boundValues, hkind]
    rw [← hvalues] at hvs hfills
    have hrun : compileCount.run b = (renderWith (b.query.renderCount b.dialect)).run b := by
      have hrequire : (requireKind .compileCount).run b = (.ok (), b) := by
        rw [requireKind, Attempt.run_bind, Attempt.run_state]
        exact congrArg (Attempt.run · b) (if_pos hkind)
      rw [compileCount, Attempt.run_bind, hrequire]
      rfl
    rw [hrun]
    exact filled_renderWith hfills hvs

/-- A select of groups with a condition behind an empty group and a bound on the groups, rendered in
a percent form after seven names were issued; its count is rendered from the same names. -/
theorem compile_filled_grouped :
    let b : Builder :=
      { query := { Query.fresh with
          table := .text "t", groupBy := [.text "a"]
          wheres :=
            [.opening .and, .closing, .test .or (.compare (.text "c") (.text "<") (.int 5))]
          having := [.test .and (.oneOf (.text "n") [.int 1, .null] (.bool false))] }
        binder := ⟨[("p7", .null)], 7⟩
        dialect := .ofTarget .postgres }
    b.dialect.Closed ∧
      Filled b b.query.erased.layout b.query.boundValues (compile.run b) ∧
        Filled b b.query.erased.countLayout b.query.boundValues (compileCount.run b) := by
  intro b
  have hd : b.dialect.Closed := Dialect.closed_ofTarget .postgres
  obtain ⟨hcompile, hcount⟩ := compile_filled b hd
  exact ⟨hd, hcompile, hcount rfl⟩

/-- The text of a delete guarded by a membership test in two groups, from a fresh binder. -/
example :
    (compile.run
      { query := { Query.fresh with
          table := .text "t", kind := .delete
          wheres := [.opening .and, .opening .or,
            .test .and (.oneOf (.text "a") [.int 1, .int 2] (.bool true)), .closing, .closing] }
        binder := .fresh
        dialect := .ofTarget .mysql }).1.toOption.map Compiled.sql =
      some "DELETE FROM t WHERE ((a NOT IN (%(p1)s,%(p2)s)))" := by cbv

end Builder

end BoundSql
