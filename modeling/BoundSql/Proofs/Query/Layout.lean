import BoundSql.Proofs.Condition.Draft
import BoundSql.Proofs.Statement.Bindings

/-!
# The layout of a statement

Every statement is laid out before any value is bound: its layout is read off the query and knows
neither the dialect nor the counter, and replacing the values of the query leaves it as it is.
Rendering fills the layout with the placeholders of the names issued next. So the placeholders of a
statement stand in its text in the order in which its values are bound.
-/

namespace BoundSql

namespace Query

open Layout

/-- A layout as a part of a statement, or no part when nothing is in it. -/
def optionalLayout (t : Layout) : List Layout := if t = [] then [] else [t]

/-- The layout of a select. -/
def selectLayout (q : Query) (columns : List Value) (withTail : Bool) : Except Failure Layout := do
  q.requireTable
  let columns ← columnTexts columns
  let table ← q.labelledTable
  let wheres ← Expression.clauseLayout "WHERE" q.wheres false
  let groups ← columnTexts q.groupBy
  let having ← Expression.clauseLayout "HAVING" q.having false
  let tail ← (if withTail then q.tailParts else .ok [])
  let head := ["SELECT " ++ commas columns, "FROM " ++ table] ++ q.joins.map Join.text
  let middle := if groups.isEmpty then [] else ["GROUP BY " ++ commas groups]
  .ok (joined " " (head.map literal ++ (optionalLayout wheres ++ (middle.map literal ++
    (optionalLayout having ++ tail.map literal)))))

/-- The layout of the count of a select. -/
def countLayout (q : Query) : Except Failure Layout :=
  if q.isGrouped then do
    let inner ← q.selectLayout q.columns false
    .ok (literal ("SELECT " ++ countColumn ++ " FROM (") ++ inner ++ literal ") AS _sub")
  else q.selectLayout [.text countColumn] false

/-- The layout of a row of an insert. -/
def rowLayout (values : List Value) : Layout :=
  literal "(" ++ joined "," (List.replicate values.length [.slot]) ++ literal ")"

/-- The layout of an insert of some rows under some columns. -/
def rowsLayout (q : Query) (columns : List Value) (rows : List (List Value)) :
    Except Failure Layout := do
  let table ← q.table.write
  let columns ← columnTexts columns
  let head := "INSERT INTO " ++ table ++ " (" ++ String.intercalate "," columns ++
    ") VALUES "
  .ok (literal head ++ joined ", " (rows.map rowLayout))

/-- The layout of an insert. -/
def insertLayout (q : Query) : Except Failure Layout := do
  q.requireTable
  match q.insert with
  | some (.single (entry :: row)) =>
    q.rowsLayout (Entries.keys (entry :: row)) [Entries.values (entry :: row)]
  | some (.rows (column :: columns) (row :: rows)) => q.rowsLayout (column :: columns) (row :: rows)
  | _ => .error (.noData .insert)

/-- The layout of a column with its new value. -/
def setLayout (entry : Value × Value) : Except Failure Layout := do
  let column ← entry.1.write
  .ok (literal (column ++ " = ") ++ [.slot])

/-- The layout of an update. -/
def updateLayout (q : Query) : Except Failure Layout := do
  q.requireTable
  if q.update.isEmpty then .error (.noData .update)
  else do
    let sets ← q.update.mapM setLayout
    let wheres ← Expression.clauseLayout "WHERE" q.wheres true
    let table ← q.table.write
    .ok (literal ("UPDATE " ++ table ++ " SET ") ++ (joined ", " sets ++ (literal " " ++ wheres)))

/-- The layout of a delete. -/
def deleteLayout (q : Query) : Except Failure Layout := do
  q.requireTable
  let wheres ← Expression.clauseLayout "WHERE" q.wheres true
  let table ← q.table.write
  .ok (literal ("DELETE FROM " ++ table ++ " ") ++ wheres)

/-- The layout of the statement of a query. -/
def layout (q : Query) : Except Failure Layout := do
  q.requireTable
  match q.kind with
  | .select => q.selectLayout q.columns true
  | .insert => q.insertLayout
  | .update => q.updateLayout
  | .delete => q.deleteLayout
  | kind => .error (.unknownKind kind)

/-- From a binder, an attempt comes to a layout with `n` slots, filled from where the counter stood
at `c`, or fails as the layout does. -/
structure Fills (d : Dialect) (c : Nat) (act : Attempt Binder String) (b : Binder)
    (lay : Except Failure Layout) (n : Nat) : Prop where
  /-- The text is the layout, filled. -/
  text : (act.run b).1 = lay.map (fill d c)
  /-- The layout has so many slots. -/
  slots : ∀ t, lay = .ok t → t.slots = n

section Fills

variable {d : Dialect} {c n : Nat} {b : Binder} {q : Query}

theorem Fills.pure {s : String} {t : Layout} (hs : s = t.fill d c) (ht : t.slots = n) :
    Fills d c (Pure.pure s) b (.ok t) n := by
  refine ⟨congrArg Except.ok hs, fun u hu => ?_⟩
  cases hu
  exact ht

theorem Fills.error (failure : Failure) : Fills d c (.fail failure) b (.error failure) n :=
  ⟨rfl, fun _ ht => by cases ht⟩

/-- What is read off the query first is the same for the layout. -/
theorem Fills.ofExcept_bind {α : Type} {e : Except Failure α} {next : α → Attempt Binder String}
    {lay : α → Except Failure Layout} (h : ∀ a, Fills d c (next a) b (lay a) n) :
    Fills d c (Attempt.ofExcept e >>= next) b (e >>= lay) n := by
  cases e with
  | ok a => exact h a
  | error failure => exact .error failure

/-- An attempt that comes to what is read off a layout fails with it, or leaves the counter behind
its slots. -/
theorem run_of_layout {β T : Type} {act : Attempt Binder β} {lay : Except Failure T} {text : T → β}
    {size : T → Nat} {vs : List Value} (htext : (act.run b).1 = lay.map text)
    (hsize : ∀ t, lay = .ok t → size t = vs.length) (hvs : act.Binds vs) :
    (∃ failure b', lay = .error failure ∧ act.run b = (.error failure, b')) ∨
      ∃ t b', lay = .ok t ∧ act.run b = (.ok (text t), b') ∧
        b'.counter = b.counter + size t := by
  rcases hrun : act.run b with ⟨outcome, b'⟩
  rw [hrun] at htext
  cases hlay : lay with
  | error failure =>
    rw [hlay] at htext
    cases htext
    exact .inl ⟨failure, b', rfl, rfl⟩
  | ok t =>
    rw [hlay] at htext
    cases htext
    refine .inr ⟨t, b', rfl, rfl, ?_⟩
    rw [hvs b _ b' hrun, Binder.counter_bindAll, hsize t hlay]

/-- What follows is filled from where the counter stands then. -/
theorem Fills.bind {act : Attempt Binder String} {lay : Except Failure Layout} {vs : List Value}
    (hact : Fills d b.counter act b lay vs.length) (hvs : act.Binds vs)
    {next : String → Attempt Binder String} {lay' : Layout → Except Failure Layout}
    (h : ∀ t, lay = .ok t → t.slots = vs.length → ∀ b', b'.counter = b.counter + t.slots →
      Fills d c (next (t.fill d b.counter)) b' (lay' t) n) :
    Fills d c (act >>= next) b (lay >>= lay') n := by
  rcases run_of_layout hact.text hact.slots hvs with
    ⟨failure, b', rfl, hrun⟩ | ⟨t, b', rfl, hrun, hcounter⟩
  · refine ⟨?_, fun _ ht => by cases ht⟩
    rw [Attempt.run_bind, hrun]
    rfl
  · have hnext := h t rfl (hact.slots t rfl) b' hcounter
    refine ⟨?_, hnext.slots⟩
    rw [Attempt.run_bind, hrun]
    exact hnext.text

/-- A clause is its layout, filled. -/
theorem fills_clause (hd : d.Closed) (keyword : String) (tokens : List Token) (guarded : Bool)
    (b : Binder) :
    Fills d b.counter (Expression.renderClause d keyword tokens guarded) b
      (Expression.clauseLayout keyword tokens guarded) (conditionValues tokens).length :=
  ⟨Expression.renderClause_fill hd keyword tokens guarded b,
    fun _ ht => (Expression.clauseLayout_eq_ok ht).2⟩

/-- An empty layout is filled to no part. -/
theorem fillAll_optionalLayout (hd : d.Closed) {t : Layout} (ht : t.Sound) (c : Nat) :
    fillAll d c (optionalLayout t) = optionalPart (t.fill d c) := by
  rw [optionalLayout, optionalPart]
  simp only [ht.fill_eq_empty_iff hd c]
  split <;> rfl

@[simp] theorem slotsAll_optionalLayout (t : Layout) : slotsAll (optionalLayout t) = t.slots := by
  unfold optionalLayout
  split
  · rename_i h
    rw [h]
    rfl
  · rfl

/-- A select is its layout, filled. -/
theorem fills_select (hd : d.Closed) (q : Query) (columns : List Value) (withTail : Bool)
    (b : Binder) :
    Fills d b.counter (renderSelect d q columns withTail) b (q.selectLayout columns withTail)
      (conditionValues q.wheres ++ conditionValues q.having).length := by
  refine .ofExcept_bind fun _ => .ofExcept_bind fun columns => .ofExcept_bind fun table => ?_
  refine Fills.bind (fills_clause hd "WHERE" q.wheres false b)
    (Expression.binds_renderClause d "WHERE" q.wheres false) fun w hw hwslots b' hb' => ?_
  refine .ofExcept_bind fun groups => ?_
  refine Fills.bind (fills_clause hd "HAVING" q.having false b')
    (Expression.binds_renderClause d "HAVING" q.having false) fun h hh hhslots b'' _ => ?_
  refine .ofExcept_bind fun tail => ?_
  have hwsound := (Expression.clauseLayout_eq_ok hw).1
  have hhsound := (Expression.clauseLayout_eq_ok hh).1
  refine .pure ?_ ?_
  · rw [hb', fill_joined]
    simp only [fillAll_append, fillAll_literal, slotsAll_literal, slotsAll_optionalLayout,
      fillAll_optionalLayout hd hwsound, fillAll_optionalLayout hd hhsound, Nat.add_zero,
      List.append_assoc]
  · simp only [slots_joined, slotsAll_append, slotsAll_literal, slotsAll_optionalLayout, hwslots,
      hhslots, List.length_append]
    omega

/-- A count is its layout, filled. -/
theorem fills_count (hd : d.Closed) (q : Query) (b : Binder) :
    Fills d b.counter (renderCount d q) b q.countLayout
      (conditionValues q.wheres ++ conditionValues q.having).length := by
  unfold renderCount countLayout
  split
  · refine Fills.bind (fills_select hd q q.columns false b)
      (binds_renderSelect d q q.columns false) fun t _ hslots b' _ => ?_
    refine .pure ?_ ?_
    · simp [fill_append, String.append_assoc]
    · simp [hslots]
  · exact fills_select hd q [.text countColumn] false b

/-- Attempts for the items of a list fill their layouts one after another, up to one that fails. -/
theorem run_forAll_fill {α : Type} {act : α → Attempt Binder String}
    {lay : α → Except Failure Layout} {values : α → List Value}
    (h : ∀ a b, Fills d b.counter (act a) b (lay a) (values a).length)
    (hvs : ∀ a, (act a).Binds (values a)) (items : List α) (b : Binder) :
    ((Attempt.forAll items act).run b).1 = (items.mapM lay).map (fillAll d b.counter) ∧
      ∀ ts, items.mapM lay = .ok ts → slotsAll ts = (items.flatMap values).length := by
  induction items generalizing b with
  | nil => exact ⟨rfl, fun ts hts => by cases hts; rfl⟩
  | cons a rest ih =>
    rw [Attempt.forAll, Attempt.run_bind, List.mapM_cons]
    rcases run_of_layout (h a b).text (h a b).slots (hvs a) with
      ⟨failure, b', hlay, hrun⟩ | ⟨t, b', hlay, hrun, hcounter⟩
    · rw [hlay, hrun]
      exact ⟨rfl, fun _ hts => by cases hts⟩
    · rw [hlay, hrun]
      dsimp only
      rw [Attempt.run_bind]
      obtain ⟨htext, hslots⟩ := ih b'
      rcases run_of_layout htext hslots (.forAll fun a _ => hvs a) with
        ⟨failure, b'', hlays, hrun'⟩ | ⟨ts, b'', hlays, hrun', _⟩
      · rw [hlays, hrun']
        exact ⟨rfl, fun _ hts => by cases hts⟩
      · rw [hlays, hrun', hcounter]
        refine ⟨rfl, fun us hus => ?_⟩
        cases hus
        rw [slotsAll_cons, (h a b).slots t hlay, hslots ts hlays, List.flatMap_cons,
          List.length_append]

/-- What follows a list of attempts is filled from where they leave the counter. -/
theorem Fills.forAll_bind {α : Type} {act : α → Attempt Binder String}
    {lay : α → Except Failure Layout} {values : α → List Value}
    (h : ∀ a b, Fills d b.counter (act a) b (lay a) (values a).length)
    (hvs : ∀ a, (act a).Binds (values a)) {items : List α}
    {next : List String → Attempt Binder String} {lay' : List Layout → Except Failure Layout}
    (hnext : ∀ ts, slotsAll ts = (items.flatMap values).length →
      ∀ b', b'.counter = b.counter + slotsAll ts →
        Fills d c (next (fillAll d b.counter ts)) b' (lay' ts) n) :
    Fills d c (Attempt.forAll items act >>= next) b (items.mapM lay >>= lay') n := by
  obtain ⟨htext, hslots⟩ := run_forAll_fill h hvs items b
  rcases run_of_layout htext hslots (.forAll fun a _ => hvs a) with
    ⟨failure, b', hlay, hrun⟩ | ⟨ts, b', hlay, hrun, hcounter⟩
  · rw [hlay]
    refine ⟨?_, fun _ ht => by cases ht⟩
    rw [Attempt.run_bind, hrun]
    rfl
  · rw [hlay]
    obtain ⟨htext', hlay'⟩ := hnext ts (hslots ts hlay) b' hcounter
    refine ⟨?_, hlay'⟩
    rw [Attempt.run_bind, hrun]
    exact htext'

/-- A row has a slot for each value. -/
theorem slots_rowLayout (values : List Value) : (rowLayout values).slots = values.length := by
  simp [rowLayout, slots_joined]

/-- A row is its layout, filled, and binds its values. -/
theorem fills_row (values : List Value) (b : Binder) :
    Fills d b.counter (renderRow d values) b (.ok (rowLayout values)) values.length := by
  refine ⟨?_, fun t ht => by cases ht; exact slots_rowLayout values⟩
  rw [renderRow, Attempt.run_bind, Expression.run_forAll_placeholder]
  simp [rowLayout, fill_append, fill_joined, fillAll_slots, String.append_assoc, Except.map]

/-- An insert of rows is its layout, filled. -/
theorem fills_rows (q : Query) (columns : List Value) (rows : List (List Value)) (b : Binder) :
    Fills d b.counter (renderRows d q columns rows) b (q.rowsLayout columns rows)
      rows.flatten.length := by
  have hrows : rows.mapM (fun values => Except.ok (ε := Failure) (rowLayout values)) =
      .ok (rows.map rowLayout) := List.mapM_pure
  have hfills : Fills d b.counter (renderRows d q columns rows) b
      ((rows.mapM fun values => .ok (rowLayout values)) >>= fun ts => do
        let table ← q.table.write
        let columns ← columnTexts columns
        let head := "INSERT INTO " ++ table ++ " (" ++ String.intercalate "," columns ++ ") VALUES "
        .ok (literal head ++ joined ", " ts)) (rows.flatMap id).length := by
    refine Fills.forAll_bind fills_row (binds_renderRow d) fun ts hts b' _ => ?_
    refine .ofExcept_bind fun table => .ofExcept_bind fun texts => .pure ?_ ?_
    · simp [fill_append, fill_joined, commas]
    · simpa [slots_joined] using hts
  rwa [hrows, List.flatMap_id] at hfills

/-- An insert is its layout, filled. -/
theorem fills_insert (q : Query) (b : Binder) :
    Fills d b.counter (renderInsert d q) b q.insertLayout
      ((q.insert.map InsertData.values).getD []).length := by
  refine .ofExcept_bind fun _ => ?_
  cases q.insert with
  | none => exact .error _
  | some data =>
    cases data with
    | single row =>
      cases row with
      | nil => exact .error _
      | cons entry row =>
        have h := fills_rows (d := d) q (Entries.keys (entry :: row))
          [Entries.values (entry :: row)] b
        rwa [List.flatten_singleton] at h
    | rows columns cells =>
      cases columns with
      | nil => exact .error _
      | cons column columns =>
        cases cells with
        | nil => exact .error _
        | cons row rest => exact fills_rows q (column :: columns) (row :: rest) b

/-- A column with its new value is its layout, filled. -/
theorem fills_set (entry : Value × Value) (b : Binder) :
    Fills d b.counter (renderSet d entry) b (setLayout entry) [entry.2].length := by
  refine .ofExcept_bind fun column => ⟨?_, fun t ht => ?_⟩
  · rw [Attempt.run_bind, Expression.run_placeholder]
    simp [fill_append, fill, Except.map]
  · cases ht
    simp [slots]

/-- An update is its layout, filled. -/
theorem fills_update (hd : d.Closed) (q : Query) (b : Binder) :
    Fills d b.counter (renderUpdate d q) b q.updateLayout
      (Entries.values q.update ++ conditionValues q.wheres).length := by
  refine .ofExcept_bind fun _ => ?_
  split
  · exact .error _
  · refine Fills.forAll_bind fills_set (fun entry => binds_renderSet d entry)
      fun sets hsets b' hb' => ?_
    refine Fills.bind (fills_clause hd "WHERE" q.wheres true b')
      (Expression.binds_renderClause d "WHERE" q.wheres true) fun w _ hslots b'' _ => ?_
    rw [← List.map_eq_flatMap] at hsets
    refine .ofExcept_bind fun table => .pure ?_ ?_
    · simp [fill_append, fill_joined, slots_joined, commas, hb', String.append_assoc]
    · simp [slots_joined, hsets, hslots, Entries.values]

/-- A delete is its layout, filled. -/
theorem fills_delete (hd : d.Closed) (q : Query) (b : Binder) :
    Fills d b.counter (renderDelete d q) b q.deleteLayout (conditionValues q.wheres).length := by
  refine .ofExcept_bind fun _ => ?_
  refine Fills.bind (fills_clause hd "WHERE" q.wheres true b)
    (Expression.binds_renderClause d "WHERE" q.wheres true) fun w _ hslots b' _ => ?_
  refine .ofExcept_bind fun table => .pure ?_ ?_
  · simp [fill_append]
  · simp [hslots]

/-- A statement is its layout, filled with the placeholders of the names issued next. -/
theorem fills_render (hd : d.Closed) (q : Query) (b : Binder) :
    Fills d b.counter (q.render d) b q.layout q.boundValues.length := by
  refine .ofExcept_bind fun _ => ?_
  unfold boundValues
  cases q.kind with
  | select => exact fills_select hd q q.columns true b
  | insert => exact fills_insert q b
  | update => exact fills_update hd q b
  | delete => exact fills_delete hd q b
  | unset => exact .error _
  | unknown name => exact .error _

end Fills

end Query

end BoundSql
