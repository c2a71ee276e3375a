import BoundSql.Proofs.Query.Addition
import BoundSql.Proofs.Statement.Tuples

/-!
# Inserts of rows given by name

Rows that are given by name one after the other are inserted together under the names of the first.
Whatever else a later row has, and in whichever order, its cells are found under these names, and
the bindings of the insert are the cells of all rows in the order of the names.
-/

namespace BoundSql

open Attempt

namespace Query

/-- Columns that are texts are written as these. -/
theorem columnTexts_map_text (names : List String) :
    columnTexts (names.map Value.text) = .ok names := by
  induction names with
  | nil => rfl
  | cons name rest ih =>
    rw [List.map_cons, columnTexts, ih]
    rfl

/-- An insert of rows under named columns renders if its table can be written. -/
theorem run_renderInsert {d : Dialect} {q : Query} {name : String} {names : List String}
    {row : List Value} {rows : List (List Value)} (htable : q.table.truthy = true)
    (hnamed : q.Named)
    (hdata : q.insert = some (.rows ((name :: names).map Value.text) (row :: rows)))
    (b : Binder) :
    (renderInsert d q).run b =
      (.ok ("INSERT INTO " ++ q.table.plain ++ " (" ++ String.intercalate "," (name :: names) ++
          ") VALUES " ++ commas ((tuples d b.counter (row :: rows)).map tupleText)),
        b.bindAll (row :: rows).flatten) := by
  have hrows : (renderInsert d q).run b =
      (renderRows d q ((name :: names).map Value.text) (row :: rows)).run b := by
    rw [renderInsert, hnamed.requireTable htable, run_bind, run_ofExcept, hdata]
    rfl
  rw [hrows, renderRows, run_bind, run_forAll_renderRow]
  dsimp only
  rw [run_bind, Value.write_of_isWritable hnamed.table, run_ofExcept]
  dsimp only
  rw [run_bind, columnTexts_map_text, run_ofExcept]
  rfl

/-- An insert into a table that cannot be written is malformed. -/
theorem run_renderInsert_unnamed {d : Dialect} {q : Query} {name : String} {names : List String}
    {row : List Value} {rows : List (List Value)} (htable : q.table.truthy = true)
    (hnamed : ¬q.Named)
    (hdata : q.insert = some (.rows ((name :: names).map Value.text) (row :: rows)))
    (b : Binder) : ((renderInsert d q).run b).1 = .error .malformed := by
  rw [renderInsert, run_bind, run_ofExcept]
  cases hrequire : q.requireTable with
  | error failure =>
    rcases requireTable_eq_error hrequire with ⟨_, hfalsy⟩ | ⟨rfl, _⟩
    · rw [htable] at hfalsy
      cases hfalsy
    · rfl
  | ok _ =>
    have hwrite : q.table.write = .error .malformed := by
      cases hwrite : q.table.write with
      | ok table =>
        exact absurd (named_of_requireTable hrequire (Value.write_eq_ok.mp hwrite).1) hnamed
      | error failure => rw [(Value.write_eq_error hwrite).1]
    rw [hdata]
    change ((renderRows d q ((name :: names).map Value.text) (row :: rows)).run b).1 = _
    rw [renderRows, run_bind, run_forAll_renderRow, hwrite]
    rfl

/-- A query for an insert is rendered as one. -/
theorem run_render_insert {d : Dialect} {q : Query} {b : Binder} (hkind : q.kind = .insert) :
    (q.render d).run b = (renderInsert d q).run b := by
  rw [render, run_bind, run_ofExcept]
  cases hrequire : q.requireTable with
  | error failure =>
    rw [renderInsert, run_bind, run_ofExcept, hrequire]
  | ok _ =>
    dsimp only
    rw [hkind]

end Query

namespace Builder

/-- Add rows given by name, one call after the other. -/
def insertRows (rows : List Row) : Attempt Builder (List Unit) :=
  forAll rows fun row => (Clause.insertRow (.map row)).apply.within queryPart

/-- A builder of which nothing has been asked but a table. -/
def forTable (d : Dialect) (name : Value) (label : Option Value) : Builder :=
  ((Clause.table name label).apply.within queryPart |>.run (fresh d)).2

/-- The builder with more rows at the end. -/
def withRows (b : Builder) (columns : List Value) (rows : List (List Value)) : Builder :=
  { b with query := b.query.withRows columns rows }

/-- Rows that have all columns are added in their order. -/
theorem run_insertRows (b : Builder) {columns : List Value} (hne : columns ≠ []) {rows : List Row}
    (h : ∀ row ∈ rows, ∀ column ∈ columns, Query.HasColumn row column)
    (before : List (List Value)) :
    (insertRows rows).run (b.withRows columns before) =
      (.ok (List.replicate rows.length ()),
        b.withRows columns (before ++ rows.map (Query.cellsIn columns))) := by
  induction rows generalizing before with
  | nil =>
    rw [List.map_nil, List.append_nil]
    rfl
  | cons row rest ih =>
    obtain ⟨hrow, hrest⟩ := List.forall_mem_cons.mp h
    have hadd : ((Clause.insertRow (.map row)).apply.within queryPart).run
        (b.withRows columns before) =
          (.ok (), b.withRows columns (before ++ [Query.cellsIn columns row])) := by
      have hrun := Query.run_addRow_of_has (q := b.query.withRows columns before) hne hrow
      rw [Query.declared_withRows, Query.withRows_withRows] at hrun
      rw [run_within]
      dsimp only [queryPart, Clause.apply, withRows]
      rw [hrun]
    rw [insertRows, forAll, run_bind, hadd]
    dsimp only
    rw [run_bind]
    have hrest := ih hrest (before ++ [Query.cellsIn columns row])
    rw [insertRows] at hrest
    rw [hrest, List.append_assoc]
    rfl

/-- Rows on a builder that has only a table are added under the columns of the first. -/
theorem run_insertRows_forTable (d : Dialect) (name : Value) (label : Option Value) {first : Row}
    (hne : first ≠ []) (hdistinct : first.Distinct Value.sameKey)
    (hself : ∀ key ∈ Entries.keys first, Value.sameKey key key = true) {later : List Row}
    (h : ∀ row ∈ later, ∀ column ∈ Entries.keys first, Query.HasColumn row column) :
    (insertRows (first :: later)).run (forTable d name label) =
      (.ok (List.replicate (first :: later).length ()),
        (forTable d name label).withRows (Entries.keys first)
          ((first :: later).map (Query.cellsIn (Entries.keys first)))) := by
  have hadd : ((Clause.insertRow (.map first)).apply.within queryPart).run
      (forTable d name label) =
        (.ok (), (forTable d name label).withRows (Entries.keys first)
          [Query.cellsIn (Entries.keys first) first]) := by
    rw [run_within]
    dsimp only [queryPart, Clause.apply, withRows]
    rw [Query.run_addRow_of_undeclared first rfl, Query.cellsIn_keys hdistinct hself]
  have hkeys : Entries.keys first ≠ [] := by
    rw [Entries.keys, Ne, List.map_eq_nil_iff]
    exact hne
  have hrest := run_insertRows (forTable d name label) hkeys h
    [Query.cellsIn (Entries.keys first) first]
  rw [insertRows] at hrest
  rw [insertRows, forAll, run_bind, hadd]
  dsimp only
  rw [run_bind, hrest]
  rfl

/-- An insert of rows under named columns compiles if its table and the label can be written: it
names the columns, writes a tuple for each row, and binds the cells of all rows in order. Otherwise
it is malformed. -/
theorem compile_withRows {b : Builder} (htable : b.query.table.truthy = true) {name : String}
    {names : List String} {row : List Value} {rows : List (List Value)}
    (hopened : b.query.openedRows = []) :
    (compile.run (b.withRows ((name :: names).map Value.text) (row :: rows))).1 =
      if b.query.table.isWritable && b.query.label.isWritable then .ok
        ⟨"INSERT INTO " ++ b.query.table.plain ++ " (" ++ String.intercalate "," (name :: names) ++
            ") VALUES " ++ Query.commas ((Query.tuples b.dialect b.binder.counter
              (row :: rows)).map Query.tupleText),
          (Binder.issued b.binder.counter (row :: rows).flatten.length).zip (row :: rows).flatten,
          b.dialect.name⟩
      else .error .malformed := by
  let q := b.query.withRows ((name :: names).map Value.text) (row :: rows)
  have hdata : q.insert = some (.rows ((name :: names).map Value.text) (row :: rows)) := by
    rw [← List.nil_append (row :: rows), ← hopened]
    rfl
  have hrender : (q.render b.dialect).run b.binder.reset =
      (Query.renderInsert b.dialect q).run b.binder.reset := Query.run_render_insert rfl
  have hcompile : compile.run (b.withRows ((name :: names).map Value.text) (row :: rows)) =
      (renderWith (q.render b.dialect)).run { b with query := q } := rfl
  rw [hcompile, run_renderWith]
  dsimp only
  rw [hrender]
  have hwritable : q.Named ↔ (b.query.table.isWritable && b.query.label.isWritable) = true :=
    Query.named_iff (q := q)
  by_cases hnamed : q.Named
  · rw [Query.run_renderInsert (q := q) htable hnamed hdata, if_pos (hwritable.mp hnamed)]
    dsimp only
    rw [Binder.params_reset_bindAll, Binder.counter_reset]
    rfl
  · have hmalformed : ((Query.renderInsert b.dialect q).run b.binder.reset).1 =
        .error .malformed :=
      Query.run_renderInsert_unnamed (q := q) htable hnamed hdata b.binder.reset
    rw [if_neg fun h => hnamed (hwritable.mpr h)]
    rcases hrun : (Query.renderInsert b.dialect q).run b.binder.reset with ⟨outcome, binder⟩
    rw [hrun] at hmalformed
    cases hmalformed
    rfl

/-- A row is added to a builder whole or not at all. -/
structure AddsWhole (b : Builder) : Prop where
  /-- A row given as a sequence is added at the end, or refused with the query as it was; nothing
  else of the builder changes. -/
  values : ∀ row cells, Query.itemsOf row = .ok cells →
    ∃ outcome query, ((Clause.values row).apply.within queryPart).run b =
        (outcome, { b with query }) ∧
      Query.ValuesStep b.query cells (outcome, query)
  /-- So is a row given by name. -/
  named : ∀ row : Row,
    ∃ outcome query, ((Clause.insertRow (.map row)).apply.within queryPart).run b =
        (outcome, { b with query }) ∧
      Query.NamedStep b.query row (outcome, query)

/-- Both ways to add a row add it as a whole or not at all. -/
theorem addsWhole (b : Builder) : b.AddsWhole where
  values := fun _ _ hcells => ⟨_, _, rfl, Query.valuesStep hcells b.query⟩
  named := fun row => ⟨_, _, rfl, Query.namedStep row b.query⟩

/-- A row is added to any builder whole or not at all. Rows that are given by name one after the
other, of which the first has names only and the others have at least these, compile to an insert
under the names of the first that binds the cells of all rows, row by row and in the order of the
names, unless the table or its label cannot be written; what else the later rows have, and in which
order, changes nothing. -/
theorem rows_added :
    (∀ b : Builder, b.AddsWhole) ∧
      ∀ (d : Dialect) (name : Value) (label : Option Value) (first : Row) (names : List String)
        (later : List Row), name.truthy = true → first ≠ [] → first.Distinct Value.sameKey →
        Entries.keys first = names.map Value.text →
        (∀ row ∈ later, ∀ column ∈ names, Entries.has Value.sameKey (.text column) row = true) →
        ∃ b, (insertRows (first :: later)).run (forTable d name label) =
            (.ok (List.replicate (first :: later).length ()), b) ∧
          (compile.run b).1 =
            (if name.isWritable && (label.getD .null).isWritable then .ok
              ⟨"INSERT INTO " ++ name.plain ++ " (" ++ String.intercalate "," names ++
                  ") VALUES " ++ Query.commas ((Query.tuples d 0 ((first :: later).map
                    (Query.cellsIn (Entries.keys first)))).map Query.tupleText),
                (Binder.issued 0 ((first :: later).flatMap
                  (Query.cellsIn (Entries.keys first))).length).zip
                    ((first :: later).flatMap (Query.cellsIn (Entries.keys first))),
                d.name⟩
            else .error .malformed) ∧
          (∀ row ∈ first :: later,
            (names.map fun column => Entries.find? Value.sameKey (.text column) row) =
              (Query.cellsIn (Entries.keys first) row).map some) ∧
          ∀ later', List.Forall₂ (fun row row' : Row => row'.Distinct Value.sameKey ∧ row ⊆ row')
              later later' →
            (insertRows (first :: later')).run (forTable d name label) =
              (.ok (List.replicate (first :: later).length ()), b) := by
  refine ⟨addsWhole, ?_⟩
  intro d name label first names later htable hne hdistinct hkeys hhas
  have hself : ∀ key ∈ Entries.keys first, Value.sameKey key key = true := by
    rw [hkeys]
    intro key hkey
    obtain ⟨s, _, rfl⟩ := List.mem_map.mp hkey
    exact Query.sameKey_text s
  have hcolumns : ∀ row : Row, (∀ column ∈ names, Query.HasColumn row (.text column)) →
      ∀ column ∈ Entries.keys first, Query.HasColumn row column := by
    rw [hkeys]
    intro row hrow column hcolumn
    obtain ⟨s, hs, rfl⟩ := List.mem_map.mp hcolumn
    exact hrow s hs
  have hlater : ∀ row ∈ later, ∀ column ∈ names, Query.HasColumn row (.text column) :=
    fun row hrow column hcolumn => ⟨rfl, hhas row hrow column hcolumn⟩
  have hall : ∀ row ∈ later, ∀ column ∈ Entries.keys first, Query.HasColumn row column :=
    fun row hrow => hcolumns row (hlater row hrow)
  have hrun := run_insertRows_forTable d name label hne hdistinct hself hall
  refine ⟨_, hrun, ?_, ?_, ?_⟩
  · cases names with
    | nil => exact absurd (List.map_eq_nil_iff.mp hkeys) hne
    | cons column names =>
      rw [hkeys]
      exact compile_withRows (b := forTable d name label) htable rfl
  · intro row hrow
    have hrow : ∀ column ∈ Entries.keys first, Query.HasColumn row column := by
      rcases List.mem_cons.mp hrow with rfl | hrow
      · exact hcolumns row fun column hcolumn =>
          Query.hasColumn_own (hkeys ▸ List.mem_map_of_mem hcolumn)
      · exact hall row hrow
    rw [← Query.map_find?_eq hrow, hkeys, List.map_map]
    rfl
  · intro later' hlater'
    obtain ⟨hcells, hall'⟩ := Query.map_cellsIn_of_subset hlater' hlater
    rw [run_insertRows_forTable d name label hne hdistinct hself
        fun row hrow => hcolumns row (hall' row hrow),
      List.map_cons, List.map_cons, hkeys, hcells, List.length_cons, List.length_cons,
      hlater'.length_eq]

/-- Two rows, the second with its names in the other order and one more. -/
theorem rows_added_reordered :
    let first : Row := [(.text "a", .int 1), (.text "b", .int 2)]
    let second : Row := [(.text "a", .int 3), (.text "b", .int 4)]
    let second' : Row := [(.text "b", .int 4), (.text "x", .null), (.text "a", .int 3)]
    first.Distinct Value.sameKey ∧ second'.Distinct Value.sameKey ∧ second ⊆ second' ∧
      ∃ b, (insertRows [first, second']).run (forTable (.ofTarget .sqlite) (.text "t") none) =
          (.ok [(), ()], b) ∧
        (compile.run b).1 = .ok ⟨"INSERT INTO t (a,b) VALUES (:p1,:p2), (:p3,:p4)",
          [("p1", .int 1), ("p2", .int 2), ("p3", .int 3), ("p4", .int 4)], "sqlite"⟩ := by
  intro first second second'
  have hfirst : first.Distinct Value.sameKey :=
    .cons (fun key hkey => by cases List.mem_singleton.mp hkey; rfl) (List.pairwise_singleton _ _)
  have hsecond : second'.Distinct Value.sameKey := Entries.distinct_ofPairs _ second'
  have hsub : second ⊆ second' := by
    rintro entry hentry
    rcases List.mem_cons.mp hentry with rfl | hentry
    · exact .tail _ (.tail _ (.head _))
    · cases List.mem_singleton.mp hentry
      exact .head _
  obtain ⟨b, _, hcompile, _, hrun⟩ := rows_added.2 (.ofTarget .sqlite) (.text "t") none first
    ["a", "b"] [second] rfl (List.cons_ne_nil _ _) hfirst rfl
    (fun row hrow column hcolumn => by
      cases List.mem_singleton.mp hrow
      rcases List.mem_cons.mp hcolumn with rfl | hcolumn
      · rfl
      · cases List.mem_singleton.mp hcolumn
        rfl)
  refine ⟨hfirst, hsecond, hsub, b, hrun [second'] (.cons ⟨hsecond, hsub⟩ .nil), ?_⟩
  have hcells : [first, second].map (Query.cellsIn (Entries.keys first)) =
      [[.int 1, .int 2], [.int 3, .int 4]] := rfl
  rw [hcompile, List.flatMap_def, hcells]
  rfl

/-- A column that is a list cannot be looked for in a row, so a row that lacks it is refused with
another failure; and a column that is a number cannot be written, so its insert does not compile. -/
theorem rows_added_mistyped :
    let listed := ((Clause.insertColumns (.list [.list [.text "a"]])).apply.within queryPart |>.run
      (fresh (.ofTarget .sqlite))).2
    let numbered := (insertRows [[(.int 1, .text "x")]]).run
      (forTable (.ofTarget .sqlite) (.text "t") none)
    ((Clause.insertRow (.map [(.text "b", .int 1)])).apply.within queryPart |>.run listed).1 =
        .error .mistyped ∧
      numbered.1 = .ok [()] ∧ (compile.run numbered.2).1 = .error .mistyped :=
  ⟨rfl, rfl, rfl⟩

end Builder

end BoundSql
