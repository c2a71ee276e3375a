import BoundSql.Proofs.Query.Columns
import BoundSql.Proofs.Statement.Bindings

/-!
# The text of a select

Between the columns of a select and its ordering and bounds stands its body: the tables, the
conditions and the groups. A select and its count have the same body, rendered from the same binder;
so they bind the same values under the same names, and their texts differ in front of the body and
behind it only.
-/

namespace BoundSql

open Attempt

namespace Query

/-- Parts of a statement, each behind a blank. -/
def spaced : List String → String
  | [] => ""
  | part :: rest => " " ++ part ++ spaced rest

theorem spaced_append (parts more : List String) :
    spaced (parts ++ more) = spaced parts ++ spaced more := by
  induction parts with
  | nil => exact String.empty_append.symm
  | cons part rest ih =>
    simp only [List.cons_append, spaced, ih, String.append_assoc]

/-- Parts behind blanks are no text only if there are none. -/
theorem spaced_eq_empty_iff {parts : List String} : spaced parts = "" ↔ parts = [] := by
  cases parts with
  | nil => exact iff_of_true rfl rfl
  | cons part rest => simp [spaced]

/-- Parts joined by blanks are the first part and the others, each behind a blank. -/
theorem intercalate_cons (part : String) (rest : List String) :
    String.intercalate " " (part :: rest) = part ++ spaced rest := by
  induction rest generalizing part with
  | nil => rw [String.intercalate_singleton, spaced, String.append_empty]
  | cons next rest ih =>
    rw [String.intercalate_cons_cons, ih, spaced]
    simp only [String.append_assoc]

/-- Render what follows the columns of a select, up to its ordering and bounds. -/
def renderBody (d : Dialect) (q : Query) : Attempt Binder String := do
  let table ← .ofExcept q.labelledTable
  let wheres ← Expression.renderClause d "WHERE" q.wheres false
  let groups ← .ofExcept (columnTexts q.groupBy)
  let having ← Expression.renderClause d "HAVING" q.having false
  pure (spaced (["FROM " ++ table] ++ q.joins.map Join.text ++ optionalPart wheres ++
    (if groups.isEmpty then [] else ["GROUP BY " ++ commas groups]) ++ optionalPart having))

/-- The text of a select. -/
def selectText (columns : List String) (body : String) (tail : List String) : String :=
  "SELECT " ++ commas columns ++ body ++ spaced tail

/-- The text of the count of a select. -/
def countText (grouped : Bool) (columns : List String) (body : String) : String :=
  if grouped then "SELECT " ++ countColumn ++ " FROM (" ++ selectText columns body [] ++ ") AS _sub"
  else selectText [countColumn] body []

theorem selectText_nil (columns : List String) (body : String) :
    selectText columns body [] = "SELECT " ++ commas columns ++ body := by
  rw [selectText, spaced, String.append_empty]

/-- The tail of a select stands behind everything else. -/
theorem selectText_append (columns : List String) (body : String) (tail : List String) :
    selectText columns body tail = selectText columns body [] ++ spaced tail := by
  rw [selectText_nil, selectText]

/-- A tail changes the text of a select unless it is empty. -/
theorem selectText_eq_iff {columns : List String} {body : String} {tail : List String} :
    selectText columns body tail = selectText columns body [] ↔ tail = [] := by
  rw [← spaced_eq_empty_iff, selectText, selectText, String.append_right_inj, spaced]

/-- The text of a count, with its fixed parts written out. -/
theorem countText_eq (grouped : Bool) (columns : List String) (body : String) :
    countText grouped columns body =
      if grouped then "SELECT COUNT(*) AS cnt FROM (" ++ selectText columns body [] ++ ") AS _sub"
      else "SELECT COUNT(*) AS cnt" ++ body := by
  have hcolumn : commas [countColumn] = "COUNT(*) AS cnt" := rfl
  have hgroups : "SELECT " ++ countColumn ++ " FROM (" = "SELECT COUNT(*) AS cnt FROM (" := rfl
  have hrows : "SELECT " ++ "COUNT(*) AS cnt" = "SELECT COUNT(*) AS cnt" := rfl
  rw [countText, hgroups, selectText_nil [countColumn], hcolumn, hrows]

/-- A select is its columns, its body and its tail. -/
theorem renderSelect_eq (d : Dialect) (q : Query) (columns : List Value) (withTail : Bool) :
    renderSelect d q columns withTail = (do
      .ofExcept q.requireTable
      let texts ← .ofExcept (columnTexts columns)
      let body ← renderBody d q
      let tail ← .ofExcept (if withTail then q.tailParts else .ok [])
      pure (selectText texts body tail)) := by
  simp only [renderSelect, renderBody, selectText, bind_assoc, pure_bind, List.cons_append,
    List.nil_append, intercalate_cons, spaced, spaced_append, String.append_assoc]

/-- A select that renders is its columns, its body and its tail, all of which render. -/
theorem run_renderSelect_eq_ok {d : Dialect} {q : Query} {columns : List Value} {withTail : Bool}
    {b b' : Binder} {sql : String}
    (h : (renderSelect d q columns withTail).run b = (.ok sql, b')) :
    ∃ texts body tail, q.requireTable = .ok () ∧ columnTexts columns = .ok texts ∧
      (renderBody d q).run b = (.ok body, b') ∧
      (if withTail then q.tailParts else .ok []) = .ok tail ∧ sql = selectText texts body tail := by
  rw [renderSelect_eq] at h
  obtain ⟨_, htable, hrest⟩ := run_ofExcept_bind_eq_ok h
  obtain ⟨texts, hcolumns, hrest⟩ := run_ofExcept_bind_eq_ok hrest
  obtain ⟨body, mid, hbody, hrest⟩ := run_bind_eq_ok hrest
  obtain ⟨tail, htail, hrest⟩ := run_ofExcept_bind_eq_ok hrest
  cases hrest
  exact ⟨texts, body, tail, htable, hcolumns, hbody, htail, rfl⟩

/-- A bound leaves no part exactly if it is not set. -/
theorem boundPart_eq_nil_iff (keyword : String) {bound : Option Nat} :
    boundPart keyword bound = .ok [] ↔ bound = none := by
  cases bound with
  | none => exact iff_of_true rfl rfl
  | some n =>
    refine iff_of_false ?_ nofun
    dsimp only [boundPart]
    split <;> nofun

/-- The tail of a select is empty exactly if it has no ordering and no bounds. -/
theorem tailParts_eq_nil_iff {q : Query} :
    q.tailParts = .ok [] ↔ q.orderBy = [] ∧ q.limit = none ∧ q.offset = none := by
  rw [← boundPart_eq_nil_iff "LIMIT", ← boundPart_eq_nil_iff "OFFSET"]
  unfold tailParts
  rcases boundPart "LIMIT" q.limit with _ | limit
  · simp [bind, Except.bind]
  rcases boundPart "OFFSET" q.offset with _ | offset
  · simp [bind, Except.bind]
  cases q.orderBy <;> simp [bind, Except.bind, pure, Except.pure]

variable {d : Dialect} {q : Query} {texts : List String}

/-- The body binds the values of the conditions on rows, then those of the conditions on groups. -/
theorem binds_renderBody (d : Dialect) (q : Query) :
    (renderBody d q).Binds (conditionValues q.wheres ++ conditionValues q.having) := by
  refine .ofExcept_bind fun table _ => ?_
  refine (Expression.binds_renderClause d "WHERE" q.wheres false).bind fun wheres => ?_
  refine .ofExcept_bind fun groups _ => ?_
  exact (Expression.binds_renderClause d "HAVING" q.having false).bind_nil fun having => .pure _

/-- A select whose table and columns can be written is its body between the two. -/
theorem renderSelect_of_texts {columns : List Value} (htable : q.requireTable = .ok ())
    (hcolumns : columnTexts columns = .ok texts) (withTail : Bool) :
    renderSelect d q columns withTail = (do
      let body ← renderBody d q
      let tail ← .ofExcept (if withTail then q.tailParts else .ok [])
      pure (selectText texts body tail)) := by
  rw [renderSelect_eq, htable, hcolumns]
  rfl

/-- A select is its body between its columns and its tail. -/
theorem render_select (hkind : q.kind = .select) (htable : q.requireTable = .ok ())
    (hcolumns : columnTexts q.columns = .ok texts) :
    q.render d = (do
      let body ← renderBody d q
      let tail ← .ofExcept q.tailParts
      pure (selectText texts body tail)) := by
  rw [render, hkind, renderSelect_of_texts htable hcolumns, htable]
  rfl

/-- A count is its body between two texts; only the count of groups writes the columns. -/
theorem renderCount_of_texts (htable : q.requireTable = .ok ())
    (hcolumns : q.isGrouped = true → columnTexts q.columns = .ok texts) :
    renderCount d q = (do
      let body ← renderBody d q
      pure (countText q.isGrouped texts body)) := by
  have hcount : columnTexts [.text countColumn] = .ok [countColumn] := rfl
  unfold renderCount countText
  cases hgrouped : q.isGrouped with
  | true =>
    simp only [if_true, renderSelect_of_texts htable (hcolumns hgrouped), bind_assoc]
    rfl
  | false =>
    simp only [Bool.false_eq_true, if_false, renderSelect_of_texts htable hcount]
    rfl

end Query

namespace Builder

variable {b : Builder} {texts : List String}

/-- A call for the kind that the query has passes. -/
theorem run_requireKind_of_eq {call : KindedCall} (h : b.query.kind = call.kind) :
    (requireKind call).run b = (.ok (), b) := by
  rw [requireKind, run_bind, run_state]
  dsimp only
  rw [if_pos h]
  rfl

/-- A call for another kind fails. -/
theorem run_requireKind_of_ne {call : KindedCall} (h : b.query.kind ≠ call.kind) :
    (requireKind call).run b = (.error (.wrongKind call b.query.kind), b) := by
  rw [requireKind, run_bind, run_state]
  dsimp only
  rw [if_neg h]
  rfl

/-- A select renders exactly if its body does and its bounds can be written. -/
theorem run_compile_select (hkind : b.query.kind = .select) (htable : b.query.requireTable = .ok ())
    (hcolumns : Query.columnTexts b.query.columns = .ok texts) :
    let r := (Query.renderBody b.dialect b.query).run b.binder.reset
    compile.run b =
      (r.1.bind fun body => b.query.tailParts.map fun tail =>
        ⟨Query.selectText texts body tail, r.2.params, b.dialect.name⟩,
        { b with binder := r.2 }) := by
  intro r
  have hcompile : compile.run b = (renderWith (b.query.render b.dialect)).run b := rfl
  rw [hcompile, run_renderWith, Query.render_select hkind htable hcolumns, run_bind]
  rcases hbody : (Query.renderBody b.dialect b.query).run b.binder.reset with ⟨outcome, binder⟩
  have hr : r = (outcome, binder) := hbody
  rw [hr]
  cases outcome with
  | ok body => cases htail : b.query.tailParts <;> rfl
  | error failure => rfl

/-- Compiling a select whose body renders comes down to its tail. -/
theorem compile_of_body (hkind : b.query.kind = .select) (htable : b.query.requireTable = .ok ())
    (hcolumns : Query.columnTexts b.query.columns = .ok texts) {body : String} {binder : Binder}
    (hbody : (Query.renderBody b.dialect b.query).run b.binder.reset = (.ok body, binder)) :
    (compile.run b).1 = b.query.tailParts.map fun tail =>
      ⟨Query.selectText texts body tail, binder.params, b.dialect.name⟩ := by
  rw [run_compile_select hkind htable hcolumns, hbody]
  rfl

/-- For a select, compiling the count renders the count. -/
theorem run_compileCount (hkind : b.query.kind = .select) :
    compileCount.run b = (renderWith (b.query.renderCount b.dialect)).run b := by
  rw [compileCount, run_bind, run_requireKind_of_eq hkind]
  rfl

/-- Nothing renders without a table that can be written, -/
theorem compile_of_untabled {failure : Failure} (h : b.query.requireTable = .error failure) :
    (compile.run b).1 = .error failure := by
  have hcompile : compile.run b = (renderWith (b.query.render b.dialect)).run b := rfl
  rw [hcompile, run_renderWith, Query.render, h]
  rfl

/-- nor does a count. -/
theorem compileCount_of_untabled (hkind : b.query.kind = .select) {failure : Failure}
    (h : b.query.requireTable = .error failure) :
    (compileCount.run b).1 = .error failure := by
  have hrender : (b.query.renderCount b.dialect).run b.binder.reset =
      (.error failure, b.binder.reset) := by
    rw [Query.renderCount]
    split <;> rw [Query.renderSelect_eq, h] <;> rfl
  rw [run_compileCount hkind, run_renderWith, hrender]

/-- So the table of a count that renders is there. -/
theorem requireTable_of_compileCount (hkind : b.query.kind = .select) {c : Compiled}
    (h : (compileCount.run b).1 = .ok c) : b.query.requireTable = .ok () := by
  cases htable : b.query.requireTable with
  | ok _ => rfl
  | error failure =>
    rw [compileCount_of_untabled hkind htable] at h
    cases h

/-- The count of groups renders only if the columns can be written. -/
theorem exists_texts_of_compileCount (hkind : b.query.kind = .select)
    (htable : b.query.requireTable = .ok ()) {c : Compiled} (h : (compileCount.run b).1 = .ok c) :
    ∃ texts, b.query.isGrouped = true → Query.columnTexts b.query.columns = .ok texts := by
  cases hcolumns : Query.columnTexts b.query.columns with
  | ok texts => exact ⟨texts, fun _ => rfl⟩
  | error f =>
    refine ⟨[], fun hgrouped => ?_⟩
    have hrender : (b.query.renderCount b.dialect).run b.binder.reset =
        (.error f, b.binder.reset) := by
      rw [Query.renderCount, if_pos hgrouped, Query.renderSelect_eq, htable, hcolumns]
      rfl
    rw [run_compileCount hkind, run_renderWith, hrender] at h
    cases h

/-- The count of a select renders exactly if its body does. -/
theorem run_compileCount_select (hkind : b.query.kind = .select)
    (htable : b.query.requireTable = .ok ())
    (hcolumns : b.query.isGrouped = true → Query.columnTexts b.query.columns = .ok texts) :
    let r := (Query.renderBody b.dialect b.query).run b.binder.reset
    compileCount.run b =
      (r.1.map fun body =>
        ⟨Query.countText b.query.isGrouped texts body, r.2.params, b.dialect.name⟩,
        { b with binder := r.2 }) := by
  intro r
  rw [run_compileCount hkind, run_renderWith, Query.renderCount_of_texts htable hcolumns, run_bind]
  rcases hbody : (Query.renderBody b.dialect b.query).run b.binder.reset with ⟨outcome, binder⟩
  have hr : r = (outcome, binder) := hbody
  rw [hr]
  cases outcome <;> rfl

/-- A count that renders has rendered the body of its select. -/
theorem exists_body_of_compileCount (hkind : b.query.kind = .select)
    (htable : b.query.requireTable = .ok ())
    (hcolumns : b.query.isGrouped = true → Query.columnTexts b.query.columns = .ok texts)
    {c : Compiled} (h : (compileCount.run b).1 = .ok c) :
    ∃ body binder,
      (Query.renderBody b.dialect b.query).run b.binder.reset = (.ok body, binder) ∧
      c = ⟨Query.countText b.query.isGrouped texts body, binder.params, b.dialect.name⟩ := by
  rw [run_compileCount_select hkind htable hcolumns] at h
  rcases hbody : (Query.renderBody b.dialect b.query).run b.binder.reset with ⟨outcome, binder⟩
  rw [hbody] at h
  cases outcome with
  | ok body =>
    cases h
    exact ⟨body, binder, rfl, rfl⟩
  | error f => cases h

/-- What a body binds, it binds under the names issued next. -/
theorem params_renderBody {body : String} {binder : Binder}
    (h : (Query.renderBody b.dialect b.query).run b.binder.reset = (.ok body, binder)) :
    let values := Query.conditionValues b.query.wheres ++ Query.conditionValues b.query.having
    binder.params = (Binder.issued b.binder.counter values.length).zip values := by
  intro values
  have hbinds : binder = b.binder.reset.bindAll values := Query.binds_renderBody _ _ _ _ _ h
  rw [hbinds, Binder.params_reset_bindAll]

end Builder

end BoundSql
