import BoundSql.Proofs.Attempt.Parallel
import BoundSql.Proofs.Query.Columns
import BoundSql.Proofs.Query.Values

/-!
# Queries that differ in their values only

One query is the image of another when it is built alike and holds the images of its values. Every
call with replaced values keeps this relation and fails alike. An insert can be built whose cells
are picked by position, from a row that is no map; its columns are then no texts, and such a query
is kept in the relation although its cells stay as they are, because it never renders.
-/

namespace BoundSql

variable {f : Value → Value}

namespace InsertData

/-- Cells replaced by their images, as far as their columns can be written. -/
def CellsImage (f : Value → Value) (columns cells cells' : List Value) : Prop :=
  cells'.length = cells.length ∧ (Query.AllTexts columns → cells' = cells.map f)

/-- The same data with the images of its values. -/
inductive Image (f : Value → Value) : InsertData → InsertData → Prop
  | single (row : Row) : Image f (single row) (single (Entries.mapValues f row))
  | rows (columns : List Value) {cells cells' : List (List Value)}
      (h : List.Forall₂ (CellsImage f columns) cells cells') :
      Image f (rows columns cells) (rows columns cells')

/-- One more row keeps rows images of each other. -/
theorem cellsImage_append {columns : List Value} {rows rows' : List (List Value)}
    {row row' : List Value} (h : List.Forall₂ (CellsImage f columns) rows rows')
    (hrow : CellsImage f columns row row') :
    List.Forall₂ (CellsImage f columns) (rows ++ [row]) (rows' ++ [row']) :=
  List.rel_append h (.cons hrow .nil)

/-- Cells without columns are replaced throughout, so they may get any columns. -/
theorem cellsImage_columns {rows rows' : List (List Value)}
    (h : List.Forall₂ (CellsImage f []) rows rows') (columns : List Value) :
    List.Forall₂ (CellsImage f columns) rows rows' :=
  h.imp fun _ _ hrow => ⟨hrow.1, fun _ => hrow.2 (by simp [Query.AllTexts])⟩

end InsertData

namespace Query

/-- The same query with the images of its values. -/
def Image (f : Value → Value) (q q' : Query) : Prop :=
  ∃ data, q' = { q.mapValues f with insert := data } ∧ Option.Rel (InsertData.Image f) q.insert data

theorem image_fresh : Image f .fresh .fresh := ⟨none, rfl, .none⟩

/-- A row has the same columns whatever its values are. -/
theorem hasColumn_mapRow (row column : Value) :
    hasColumn (row.mapRow f) column = hasColumn row column := by
  cases row with
  | map entries => simp only [Value.mapRow, hasColumn, Entries.has_mapValues]
  | _ => rfl

/-- Declared columns are missing in both rows or in neither. -/
theorem requireColumns_mapRow (row : Value) (declared columns : List Value) :
    requireColumns (row.mapRow f) declared columns = requireColumns row declared columns := by
  induction columns with
  | nil => rfl
  | cons column rest ih => simp only [requireColumns, hasColumn_mapRow, ih]

/-- The keys of a row stay. -/
theorem itemsOf_mapRow (row : Value) : itemsOf (row.mapRow f) = itemsOf row := by
  rw [itemsOf, Value.items?_mapRow, itemsOf]

/-- The items of a row become their images. -/
theorem itemsOf_mapItems (row : Value) :
    itemsOf (row.mapItems f) = (itemsOf row).map (List.map f) := by
  rw [itemsOf, Value.items?_mapItems, itemsOf]
  cases row.items? <;> rfl

/-- The number of items stays. -/
theorem size?_mapItems (row : Value) : (row.mapItems f).size? = row.size? := by
  rw [Value.size?, Value.items?_mapItems, Value.size?]
  cases row.items? <;> simp

/-- The cells of a replaced map are the images of its cells. -/
theorem mapM_cell_map (entries : List (Value × Value)) (columns : List Value) :
    columns.mapM (cell (.map (Entries.mapValues f entries))) =
      (columns.mapM (cell (.map entries))).map (List.map f) := by
  induction columns with
  | nil => rfl
  | cons column rest ih =>
    rw [List.mapM_cons, List.mapM_cons, ih]
    simp only [cell, Entries.find?_mapValues]
    cases Entries.find? Value.sameKey column entries with
    | none => rfl
    | some v => cases rest.mapM (cell (.map entries)) <;> rfl

/-- A row that is no map has no cell in a column that is a text. -/
theorem cell_text {row : Value} (h : ∀ entries, row ≠ .map entries) (s : String) :
    cell row (.text s) = .error .mistyped := by
  cases row with
  | map entries => exact absurd rfl (h entries)
  | _ => rfl

/-- What is no map holds no values under column names. -/
theorem mapRow_of_ne_map {row : Value} (h : ∀ entries, row ≠ .map entries) :
    row.mapRow f = row := by
  cases row with
  | map entries => exact absurd rfl (h entries)
  | _ => rfl

/-- The cells of what is no map are looked up one by one. -/
theorem ownCells_of_ne_map {row : Value} (h : ∀ entries, row ≠ .map entries) :
    ownCells row = itemsOf row >>= fun columns => columns.mapM (cell row) := by
  cases row with
  | map entries => exact absurd rfl (h entries)
  | _ => rfl

/-- The cells of a row under some columns are replaced with it, or the columns cannot be written. -/
theorem mapM_cell_mapRow (row : Value) (columns : List Value) :
    Agrees (InsertData.CellsImage f columns) (columns.mapM (cell row))
      (columns.mapM (cell (row.mapRow f))) := by
  by_cases hmap : ∃ entries, row = .map entries
  · obtain ⟨entries, rfl⟩ := hmap
    rw [Value.mapRow, mapM_cell_map]
    cases columns.mapM (cell (.map entries)) with
    | error e => exact .error e
    | ok cells => exact .ok ⟨by simp, fun _ => rfl⟩
  · have hne : ∀ entries, row ≠ .map entries := fun entries h => hmap ⟨entries, h⟩
    rw [mapRow_of_ne_map hne]
    cases hcells : columns.mapM (cell row) with
    | error e => exact .error e
    | ok cells =>
      refine .ok ⟨rfl, fun htexts => ?_⟩
      cases columns with
      | nil =>
        cases hcells
        rfl
      | cons column rest =>
        -- a first column that is a text has no cell, so the look-up cannot have succeeded
        obtain ⟨s, rfl⟩ := htexts column List.mem_cons_self
        rw [List.mapM_cons, cell_text hne] at hcells
        cases hcells

/-- The cells of a row in declared columns. -/
theorem matchedCells_mapRow (columns : List Value) (row : Value) :
    Agrees (InsertData.CellsImage f columns) (matchedCells columns row)
      (matchedCells columns (row.mapRow f)) := by
  unfold matchedCells
  rw [requireColumns_mapRow]
  cases requireColumns row columns columns with
  | error e => exact .error e
  | ok u => exact mapM_cell_mapRow row columns

/-- The cells of a row in its own columns. -/
theorem ownCells_mapRow {row : Value} {columns : List Value} (h : itemsOf row = .ok columns) :
    Agrees (InsertData.CellsImage f columns) (ownCells row) (ownCells (row.mapRow f)) := by
  by_cases hmap : ∃ entries, row = .map entries
  · obtain ⟨entries, rfl⟩ := hmap
    exact .ok ⟨by simp, fun _ => Entries.values_mapValues f entries⟩
  · have hne : ∀ entries, row ≠ .map entries := fun entries h => hmap ⟨entries, h⟩
    have hcells := mapM_cell_mapRow (f := f) row columns
    rw [mapRow_of_ne_map hne] at hcells ⊢
    rw [ownCells_of_ne_map hne, h]
    exact hcells

/-- The key of a pair stays, and its value becomes its image. -/
theorem pairOf_mapPair (item : Value) :
    pairOf (item.mapPair f) = (pairOf item).map fun pair => (pair.1, f pair.2) := by
  unfold Value.mapPair
  split
  · rename_i key value h
    have hpair : pairOf item = if key.isKey then .ok (key, value) else .error .mistyped := by
      rw [pairOf, h]
    have himage : pairOf (.list [key, f value]) =
        if key.isKey then .ok (key, f value) else .error .mistyped := rfl
    rw [himage, hpair]
    split <;> rfl
  · rename_i h
    unfold pairOf
    split
    · rfl
    · rename_i key value heq
      exact absurd heq (h key value)
    · rfl

theorem mapM_pairOf (items : List Value) :
    (items.map (Value.mapPair f)).mapM pairOf =
      (items.mapM pairOf).map (Entries.mapValues f) := by
  induction items with
  | nil => rfl
  | cons item rest ih =>
    rw [List.map_cons, List.mapM_cons, List.mapM_cons, ih, pairOf_mapPair]
    cases pairOf item with
    | error e => rfl
    | ok pair => cases rest.mapM pairOf <;> rfl

/-- The map that a replaced argument stands for has the images of the values. -/
theorem mapOf_mapPairs (data : Value) :
    mapOf (data.mapPairs f) = (mapOf data).map (Entries.mapValues f) := by
  have hlist : ∀ items : List Value,
      mapOf (.list (items.map (Value.mapPair f))) =
        ((items.mapM pairOf).map Value.mapOf).map (Entries.mapValues f) := by
    intro items
    simp only [mapOf, Value.items?, mapM_pairOf]
    cases items.mapM pairOf with
    | error e => rfl
    | ok pairs => exact congrArg Except.ok (Entries.ofPairs_mapValues f Value.sameKey pairs)
  cases data with
  | map entries => rfl
  | list items => exact hlist items
  | text s => exact hlist _
  | _ => rfl

end Query

end BoundSql
