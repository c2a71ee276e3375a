import BoundSql.Connection.Direct
import BoundSql.Proofs.Query.Rows
import BoundSql.Proofs.Session.Invariant
import BoundSql.Proofs.Statement.Tuples

/-!
# Rectangular inserts

At every moment of a run each row of an insert under declared columns has a cell for each column, or
no cells at all, and so has its tuple in the statement. Rows without cells come from one source: a
row without columns that is given by name while no columns are declared. The columns of the next row
are then declared over it.
-/

namespace BoundSql

/-- An insert under declared columns has a cell for each column in each row, and its statement a
placeholder for each column in each tuple. -/
structure Builder.Rectangular (b : Builder) : Prop where
  /-- Each row has a cell for each column. -/
  rows : ∀ columns rows, b.query.insert = some (.rows columns rows) →
    ∀ row ∈ rows, row.length = columns.length
  /-- Each tuple has a placeholder for each column. -/
  tuples : ∀ columns rows c b', b.query.kind = .insert →
    b.query.insert = some (.rows columns rows) → compile.run b = (.ok c, b') →
      ∃ (names : List String) (tuples : List (List String)), columns = names.map Value.text ∧
        c.sql = "INSERT INTO " ++ b.query.table.plain ++ " (" ++ String.intercalate "," names ++
          ") VALUES " ++ Query.commas (tuples.map Query.tupleText) ∧
        tuples.length = rows.length ∧ (∀ ps ∈ tuples, ps.length = names.length) ∧
        tuples.flatten = (Entries.keys c.params).map b.dialect.placeholder

namespace Builder

/-- Full rows make a rectangle, and so do their tuples. -/
theorem rectangular_of_full {b : Builder} (h : InsertData.Full b.query.insert) :
    b.Rectangular := by
  have hrows : ∀ columns rows, b.query.insert = some (.rows columns rows) →
      ∀ row ∈ rows, row.length = columns.length :=
    fun columns rows hdata row hm => (h columns rows hdata row hm).1
  refine ⟨hrows, fun columns rows c b' hkind hdata hcompile => ?_⟩
  obtain ⟨names, tuples, hcolumns, hsql, hlengths, hflatten⟩ :=
    compile_tuples hkind hdata hcompile
  refine ⟨names, tuples, hcolumns, hsql, ?_, fun ps hm => ?_, hflatten⟩
  · simpa using congrArg List.length hlengths
  · have hlength : ps.length ∈ rows.map List.length := hlengths ▸ List.mem_map_of_mem hm
    obtain ⟨row, hrow, hsame⟩ := List.mem_map.mp hlength
    rw [← hsame, hrows columns rows hdata row hrow, hcolumns, List.length_map]

end Builder

namespace Step

open Attempt

variable {L : Type} [Connection L]

/-- A property of the data of inserts that calls keep is kept by the calls of steps. -/
theorem kept_insert {R : Option InsertData → Prop} {calls : List Clause}
    (h : ∀ call ∈ calls, ∀ q, R q.insert → R (call.apply.run q).2.insert) :
    Kept (Session.Every (L := L) fun q => R q.insert) calls :=
  fun call hcall n => Session.keeps_every (h call hcall) n

/-- At every moment of a run each row of an insert is as long as the declared columns or has no
cells. If no row without columns is given by name, inserts are rectangular. -/
theorem Reaches.rectangular (settings : Settings) (dialect : Dialect) (link : Option L)
    (tables : TableSource) (trace : Bool) {steps : List Step} {inside : List Nat} {t : Session L}
    (h : Reaches steps (Session.start settings dialect link tables trace) inside t) (n : Nat) :
    InsertData.Level (t.builder n).query.insert ∧
      ((∀ row, Clause.insertRow row ∈ clausesAll steps → Query.itemsOf row ≠ .ok []) →
        (t.builder n).Rectangular) := by
  constructor
  · have hkept : Kept (Session.Every (L := L) fun q => InsertData.Level q.insert)
        (clausesAll steps) :=
      kept_insert fun call _ q hq => (call.rowStep_apply q).level hq
    refine h.holds (Session.invariant_of_insert InsertData.Level) hkept ?_ n
    exact Session.every_start (Q := fun q => InsertData.Level q.insert) nofun _ _ _ _ _
  · intro hrows
    have hkept : Kept (Session.Every (L := L) fun q => InsertData.Full q.insert)
        (clausesAll steps) := by
      refine kept_insert fun call hcall q hq => (call.rowStep_apply q).full ?_ hq
      rintro row rfl
      exact hrows row hcall
    have hfull := h.holds (Session.invariant_of_insert InsertData.Full) hkept
      (Session.every_start (Q := fun q => InsertData.Full q.insert) nofun _ _ _ _ _) n
    exact Builder.rectangular_of_full hfull

/-- Rows given by name in another order and with too much are matched, and calls that give too
little fail: two rows stand under the columns of the first. -/
theorem Reaches.rectangular_mixed :
    let here : Site := ⟨none, false, false⟩
    let caught : Site := ⟨none, true, false⟩
    let steps : List Step :=
      [.plain here (.clause (.table (.text "t") none)),
        .plain here (.clause (.insertRow (.map [(.text "a", .int 1), (.text "b", .int 2)]))),
        .plain caught (.clause (.insertRow (.map [(.text "a", .int 3)]))),
        .plain caught (.clause (.values (.list [.int 3]))),
        .plain here (.clause (.insertRow
          (.map [(.text "b", .int 4), (.text "c", .null), (.text "a", .int 5)])))]
    let start : Session Direct := Session.start .standard (.ofTarget .sqlite) none .nothing false
    (∀ row, Clause.insertRow row ∈ clausesAll steps → Query.itemsOf row ≠ .ok []) ∧
      ∃ t, Reaches steps start [] t ∧ (t.builder 0).Rectangular ∧
        (t.builder 0).query.insert =
          some (.rows [.text "a", .text "b"] [[.int 1, .int 2], [.int 5, .int 4]]) := by
  intro here caught steps start
  have hrows : ∀ row, Clause.insertRow row ∈ clausesAll steps → Query.itemsOf row ≠ .ok [] := by
    intro row hm
    simp only [steps, clausesAll, clauses, Action.clauses, List.mem_append, List.mem_cons,
      List.not_mem_nil, or_false, false_or, reduceCtorEq, Clause.insertRow.injEq] at hm
    intro hitems
    rcases hm with rfl | rfl | rfl <;> cases hitems
  have hreaches : Reaches steps start [] (runAll steps (.builder 0) start).2.2 :=
    (passes_end steps (.builder 0) start).reaches
  refine ⟨hrows, _, hreaches, ?_, rfl⟩
  exact (hreaches.rectangular .standard (.ofTarget .sqlite) none .nothing false 0).2 hrows

/-- A row without columns is kept, and the columns of the next row are declared over it: the
statement has a tuple of no placeholders under one column. -/
theorem Reaches.ragged :
    let here : Site := ⟨none, false, false⟩
    let steps : List Step :=
      [.plain here (.clause (.table (.text "t") none)),
        .plain here (.clause (.insertRow (.map []))),
        .plain here (.clause (.insertRow (.map [(.text "a", .int 1)])))]
    let start : Session Direct := Session.start .standard (.ofTarget .sqlite) none .nothing false
    ∃ t, Reaches steps start [] t ∧
      (t.builder 0).query.insert = some (.rows [.text "a"] [[], [.int 1]]) ∧
      ((Builder.compile.run (t.builder 0)).1.toOption.map Compiled.sql =
        some "INSERT INTO t (a) VALUES (), (:p1)") ∧
      ¬(t.builder 0).Rectangular := by
  intro here steps start
  have hreaches : Reaches steps start [] (runAll steps (.builder 0) start).2.2 :=
    (passes_end steps (.builder 0) start).reaches
  refine ⟨_, hreaches, rfl, by decide +kernel, fun h => ?_⟩
  have hlength : ([] : List Value).length = [Value.text "a"].length :=
    h.rows _ _ rfl [] List.mem_cons_self
  cases hlength

end Step

end BoundSql
