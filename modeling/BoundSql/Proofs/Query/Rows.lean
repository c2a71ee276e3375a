import BoundSql.Proofs.Attempt.Keeps
import BoundSql.Proofs.Query.Families

/-!
# The rows of an insert

A row is added at the length of the columns that are declared then. Columns that are declared
already stay as they are, but an empty list of them is replaced by the columns of the next row that
is given by name. So all rows are as long as the columns, except those that were added, empty, while
no column was declared; and if no row without columns is ever given by name, there are none of
these.
-/

namespace BoundSql

open Attempt

namespace Query

/-- What a call makes of the data of an insert. -/
inductive RowStep (call : Clause) (data : Option InsertData) : Option InsertData → Prop
  /-- The data stays. -/
  | same : RowStep call data data
  /-- An insert of one row is started. -/
  | single (row : Row) : RowStep call data (some (.single row))
  /-- An insert under some columns is started. -/
  | declared (columns : List Value) : RowStep call data (some (.rows columns []))
  /-- A row is added under declared columns. -/
  | added {columns cells : List Value} {rows : List (List Value)}
    (hdata : data = some (.rows columns rows)) (hcolumns : columns ≠ [])
    (hlength : cells.length = columns.length) :
    RowStep call data (some (.rows columns (rows ++ [cells])))
  /-- A row given by name declares the columns where none are declared, and may fail then. -/
  | named {row : Value} {columns : List Value} {rows : List (List Value)}
    (hcall : call = .insertRow row) (hdata : data = some (.rows [] rows))
    (hcolumns : itemsOf row = .ok columns) : RowStep call data (some (.rows columns rows))
  /-- A row given by name declares the columns where none are declared, and is added. -/
  | filled {row : Value} {columns cells : List Value} {rows : List (List Value)}
    (hcall : call = .insertRow row) (hdata : data = some (.rows [] rows))
    (hcolumns : itemsOf row = .ok columns) (hlength : cells.length = columns.length) :
    RowStep call data (some (.rows columns (rows ++ [cells])))
  /-- A row given by name starts an insert. -/
  | first {row : Value} {columns cells : List Value} (hcall : call = .insertRow row)
    (hcolumns : itemsOf row = .ok columns) (hlength : cells.length = columns.length) :
    RowStep call data (some (.rows columns [cells]))

/-- There is an answer for each item. -/
theorem length_of_mapM {α β : Type} {f : α → Except Failure β} {items : List α}
    {answers : List β} (h : items.mapM f = .ok answers) : answers.length = items.length := by
  induction items generalizing answers with
  | nil =>
    cases h
    rfl
  | cons item rest ih =>
    rw [List.mapM_cons] at h
    cases hitem : f item with
    | error failure =>
      rw [hitem] at h
      cases h
    | ok answer =>
      cases hrest : rest.mapM f with
      | error failure =>
        rw [hitem, hrest] at h
        cases h
      | ok others =>
        rw [hitem, hrest] at h
        cases h
        exact congrArg Nat.succ (ih hrest)

/-- A row has a cell for each of its own columns. -/
theorem length_ownCells {row : Value} {columns cells : List Value}
    (hcolumns : itemsOf row = .ok columns) (h : ownCells row = .ok cells) :
    cells.length = columns.length := by
  cases row with
  | map entries =>
    cases hcolumns
    cases h
    simp [Entries.values, Entries.keys]
  | _ =>
    rw [ownCells, hcolumns] at h
    · exact length_of_mapM h
    · intro entries hmap
      cases hmap

/-- A row that is matched by name has a cell for each declared column. -/
theorem length_matchedCells {row : Value} {columns cells : List Value}
    (h : matchedCells columns row = .ok cells) : cells.length = columns.length := by
  unfold matchedCells at h
  cases hrequired : requireColumns row columns columns with
  | error failure =>
    rw [hrequired] at h
    cases h
  | ok _ =>
    rw [hrequired] at h
    exact length_of_mapM h

/-- Rows that are open are those of the insert. -/
theorem insert_of_openRows {q : Query} {columns : List Value} {rows : List (List Value)}
    (h : openRows q = some (columns, rows)) : q.insert = some (.rows columns rows) := by
  unfold openRows at h
  split at h
  · rename_i hinsert
    cases h
    exact hinsert
  · cases h

/-- Columns are declared if they can be read. -/
theorem rowStep_declare (call : Clause) (data : Option InsertData)
    (columns : Except Failure (List Value)) (q : Query) (hq : q.insert = data) :
    RowStep call data ((ofExcept columns >>= fun columns =>
      Attempt.update fun q => { q with insert := some (.rows columns []) }).run q).2.insert := by
  cases columns with
  | ok columns => exact .declared columns
  | error failure =>
    rw [← hq]
    exact .same

/-- Starting an insert replaces the data. -/
theorem rowStep_startInsert (data : Value) (q : Query) :
    RowStep (.insert data) q.insert ((startInsert data).run q).2.insert := by
  unfold startInsert
  rw [run_bind, run_update]
  dsimp only
  split
  · exact .single _
  · exact rowStep_declare _ q.insert _ { q with kind := .insert } rfl

/-- Declaring columns drops the rows. -/
theorem rowStep_startColumns (columns : Value) (q : Query) :
    RowStep (.insertColumns columns) q.insert ((startColumns columns).run q).2.insert :=
  rowStep_declare _ q.insert (itemsOf columns) { q with kind := .insert } rfl

/-- A row of values is added if it has as many as there are columns. -/
theorem rowStep_addValues (row : Value) (q : Query) :
    RowStep (.values row) q.insert ((addValues row).run q).2.insert := by
  rw [addValues, run_bind, run_state]
  dsimp only
  split
  · rename_i column columns rows hopen
    refine holds_ofExcept_bind (P := fun q' : Query => RowStep _ q.insert q'.insert) .same ?_
    intro values _
    split
    · rename_i hlength
      exact .added (insert_of_openRows hopen) (List.cons_ne_nil _ _) hlength
    · exact .same
  · split
    · exact .same
    · exact .same

/-- A row by column name is added with a cell for each column. -/
theorem rowStep_addRow (row : Value) (q : Query) :
    RowStep (.insertRow row) q.insert ((addRow row).run q).2.insert := by
  rw [addRow, run_bind, run_state]
  dsimp only
  split
  · rename_i column columns rows hopen
    refine holds_ofExcept_bind (P := fun q' : Query => RowStep _ q.insert q'.insert) .same ?_
    intro cells hcells
    exact .added (insert_of_openRows hopen) (List.cons_ne_nil _ _) (length_matchedCells hcells)
  · rename_i rows hopen
    refine holds_ofExcept_bind (P := fun q' : Query => RowStep _ q.insert q'.insert) .same ?_
    intro columns hcolumns
    -- the columns are declared before the cells are read, and stay declared if that fails
    let named : Query := { q with insert := some (.rows columns rows) }
    refine holds_ofExcept_bind (P := fun q' : Query => RowStep _ q.insert q'.insert) (s := named)
      (.named rfl (insert_of_openRows hopen) hcolumns) ?_
    intro cells hcells
    exact .filled rfl (insert_of_openRows hopen) hcolumns (length_ownCells hcolumns hcells)
  · refine holds_ofExcept_bind (P := fun q' : Query => RowStep _ q.insert q'.insert) .same ?_
    intro columns hcolumns
    refine holds_ofExcept_bind (P := fun q' : Query => RowStep _ q.insert q'.insert) .same ?_
    intro cells hcells
    exact .first rfl hcolumns (length_ownCells hcolumns hcells)

end Query

/-- What a call makes of the data of an insert, also when it fails. -/
theorem Clause.rowStep_apply (call : Clause) (q : Query) :
    Query.RowStep call q.insert (call.apply.run q).2.insert := by
  have hother : call.family ≠ .statement →
      Query.RowStep call q.insert (call.apply.run q).2.insert := by
    intro hfamily
    have hsame : (call.apply.run q).2.insert = q.insert := by
      rw [Clause.onlyIn_apply call q]
      cases hcall : call.family with
      | statement => exact absurd hcall hfamily
      | _ => rfl
    rw [hsame]
    exact .same
  have hkept : Keeps (fun q' => q'.insert = q.insert) call.apply →
      Query.RowStep call q.insert (call.apply.run q).2.insert := by
    intro h
    rw [h q rfl]
    exact .same
  cases call with
  | insert data => exact Query.rowStep_startInsert data q
  | insertColumns columns => exact Query.rowStep_startColumns columns q
  | values row => exact Query.rowStep_addValues row q
  | insertRow row => exact Query.rowStep_addRow row q
  | select columns =>
    refine hkept (Keeps.bind (.update fun _ h => h) fun _ => ?_)
    exact Keeps.bind (.ofExcept _) fun _ => .update fun _ h => h
  | update data =>
    refine hkept (Keeps.bind (.update fun _ h => h) fun _ => ?_)
    exact Keeps.bind (.ofExcept _) fun _ => .update fun _ h => h
  | delete => exact hkept (.update fun _ h => h)
  | _ => exact hother nofun

namespace InsertData

/-- Every row under declared columns is as long as these, or has no cells. -/
def Level (data : Option InsertData) : Prop :=
  ∀ columns rows, data = some (.rows columns rows) →
    ∀ row ∈ rows, row.length = columns.length ∨ row = []

/-- Every row under declared columns is as long as these, and has cells. -/
def Full (data : Option InsertData) : Prop :=
  ∀ columns rows, data = some (.rows columns rows) →
    ∀ row ∈ rows, row.length = columns.length ∧ row ≠ []

end InsertData

namespace Query.RowStep

open InsertData

variable {call : Clause} {data data' : Option InsertData}

/-- No call takes the levelness of rows away. -/
theorem level (h : RowStep call data data') (hd : Level data) : Level data' := by
  intro columns rows hrows row hm
  cases h with
  | same => exact hd columns rows hrows row hm
  | single _ => cases hrows
  | declared _ =>
    cases hrows
    cases hm
  | added hdata _ hlength =>
    cases hrows
    rcases List.mem_append.mp hm with hm | hm
    · exact hd _ _ hdata row hm
    · rw [List.mem_singleton.mp hm]
      exact .inl hlength
  | named _ hdata _ =>
    cases hrows
    -- what is as long as no columns has no cells
    refine .inr ((hd _ _ hdata row hm).elim List.eq_nil_of_length_eq_zero id)
  | filled _ hdata _ hlength =>
    cases hrows
    rcases List.mem_append.mp hm with hm | hm
    · exact .inr ((hd _ _ hdata row hm).elim List.eq_nil_of_length_eq_zero id)
    · rw [List.mem_singleton.mp hm]
      exact .inl hlength
  | first _ _ hlength =>
    cases hrows
    rw [List.mem_singleton.mp hm]
    exact .inl hlength

/-- No call but one that gives a row without columns by name takes the fullness of rows away. -/
theorem full (h : RowStep call data data')
    (hcall : ∀ row, call = .insertRow row → itemsOf row ≠ .ok []) (hd : Full data) :
    Full data' := by
  have hnew : ∀ {columns cells : List Value}, columns ≠ [] → cells.length = columns.length →
      cells.length = columns.length ∧ cells ≠ [] := by
    rintro columns cells hcolumns hlength
    refine ⟨hlength, ?_⟩
    rintro rfl
    exact hcolumns (List.eq_nil_of_length_eq_zero hlength.symm)
  have hnamed : ∀ {row columns}, call = .insertRow row → itemsOf row = .ok columns →
      columns ≠ [] := by
    rintro row columns hrow hcolumns rfl
    exact hcall row hrow hcolumns
  -- full rows are never as long as no columns, so there are none where no columns are declared
  have hnone : ∀ {rows : List (List Value)}, data = some (.rows [] rows) → rows = [] := by
    intro rows hdata
    refine List.eq_nil_iff_forall_not_mem.mpr fun row hm => ?_
    obtain ⟨hlength, hcells⟩ := hd _ _ hdata row hm
    exact hcells (List.eq_nil_of_length_eq_zero hlength)
  intro columns rows hrows row hm
  cases h with
  | same => exact hd columns rows hrows row hm
  | single _ => cases hrows
  | declared _ =>
    cases hrows
    cases hm
  | added hdata hcolumns hlength =>
    cases hrows
    rcases List.mem_append.mp hm with hm | hm
    · exact hd _ _ hdata row hm
    · rw [List.mem_singleton.mp hm]
      exact hnew hcolumns hlength
  | named _ hdata _ =>
    cases hrows
    rw [hnone hdata] at hm
    cases hm
  | filled hrow hdata hcolumns hlength =>
    cases hrows
    rw [hnone hdata, List.nil_append] at hm
    rw [List.mem_singleton.mp hm]
    exact hnew (hnamed hrow hcolumns) hlength
  | first hrow hcolumns hlength =>
    cases hrows
    rw [List.mem_singleton.mp hm]
    exact hnew (hnamed hrow hcolumns) hlength

end Query.RowStep

end BoundSql
