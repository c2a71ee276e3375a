import BoundSql.Proofs.Query.Image

/-!
# Calls with replaced values

A call with replaced values runs in parallel with the call itself: on the image of a query it leaves
the image of what the call leaves, or fails with the same failure. No call looks at a value that is
to be bound.
-/

namespace BoundSql

variable {f : Value → Value}

namespace Query

open Attempt

/-- Rows under way in a query and in its image have the same columns. -/
theorem openRows_image {q q' : Query} (h : Image f q q') :
    Option.Rel (fun x y => y.1 = x.1 ∧ List.Forall₂ (InsertData.CellsImage f x.1) x.2 y.2)
      (openRows q) (openRows q') := by
  obtain ⟨data, rfl, hdata⟩ := h
  simp only [openRows, mapValues]
  generalize q.insert = given at hdata
  cases hdata with
  | none => cases q.kind <;> exact .none
  | some hdata =>
    cases hdata with
    | single row => cases q.kind <;> exact .none
    | rows columns hcells => cases q.kind <;> first | exact .none | exact .some ⟨rfl, hcells⟩

/-- Setting images of the same data keeps two queries images of each other. -/
theorem Image.setInsert {q q' : Query} (h : Image f q q') {data data' : InsertData}
    (hdata : InsertData.Image f data data') :
    Image f { q with insert := some data } { q' with insert := some data' } := by
  obtain ⟨_, rfl, _⟩ := h
  exact ⟨_, rfl, .some hdata⟩

/-- Switching the kind keeps two queries images of each other. -/
theorem Image.setKind {q q' : Query} (h : Image f q q') (kind : Kind) :
    Image f { q with kind } { q' with kind } := by
  obtain ⟨data, rfl, hdata⟩ := h
  exact ⟨data, rfl, hdata⟩

/-- A change that leaves the payload, and its image on the image, keep the two images of each
other. -/
theorem parallel_set {g g' : Query → Query}
    (hdata : ∀ q data, { (g q).mapValues f with insert := data } =
      g' { q.mapValues f with insert := data })
    (hinsert : ∀ q, (g q).insert = q.insert) :
    Parallel (Image f) Eq (Attempt.update g) (Attempt.update g') := by
  refine .update ?_
  rintro q _ ⟨data, rfl, hrel⟩
  exact ⟨data, (hdata q data).symm, (hinsert q).symm ▸ hrel⟩

/-- Columns are declared in both. -/
theorem parallel_setColumns (columns : List Value) :
    Parallel (Image f) Eq
      (Attempt.update fun q : Query => { q with insert := some (.rows columns []) })
      (Attempt.update fun q : Query => { q with insert := some (.rows columns []) }) :=
  .update fun _ _ h => h.setInsert (.rows columns .nil)

/-- An insert of a map starts with the images of its values. -/
theorem parallel_startInsert (data : Value) :
    Parallel (Image f) Eq (Clause.insert data).apply ((Clause.insert data).mapValues f).apply := by
  have hcolumns : Parallel (Image f) Eq
      (Attempt.ofExcept (columnsOf data) >>= fun columns =>
        Attempt.update fun q : Query => { q with insert := some (.rows columns []) })
      (Attempt.ofExcept (columnsOf data) >>= fun columns =>
        Attempt.update fun q : Query => { q with insert := some (.rows columns []) }) :=
    .ofExcept_bind fun columns _ => parallel_setColumns columns
  have hkind : Parallel (Image f) Eq (Attempt.update fun q : Query => { q with kind := .insert })
      (Attempt.update fun q : Query => { q with kind := .insert }) :=
    parallel_set (fun _ _ => rfl) fun _ => rfl
  cases data with
  | map entries =>
    refine hkind.bind fun _ _ _ => ?_
    exact .update fun _ _ h => h.setInsert (.single entries)
  | _ => exact hkind.bind fun _ _ _ => hcolumns

/-- A row of values is added with their images. -/
theorem parallel_addValues (row : Value) :
    Parallel (Image f) Eq (addValues row) (addValues (row.mapItems f)) := by
  refine Parallel.state.bind fun q q' h => ?_
  have hopen := openRows_image h
  generalize openRows q = given at hopen
  generalize openRows q' = given' at hopen
  cases hopen with
  | none =>
    dsimp only
    rw [size?_mapItems]
    cases row.size? <;> exact .fail _
  | @some x y hrel =>
    obtain ⟨columns, rows⟩ := x
    obtain ⟨columns', rows'⟩ := y
    obtain ⟨rfl, hrows⟩ := hrel
    cases columns' with
    | nil =>
      dsimp only
      rw [size?_mapItems]
      cases row.size? <;> exact .fail _
    | cons column columns =>
      dsimp only
      rw [itemsOf_mapItems]
      cases itemsOf row with
      | error failure => exact .fail failure
      | ok values =>
        change Parallel _ _ (if values.length = _ then _ else Attempt.fail (.rowLength _ _))
          (if (values.map f).length = _ then _ else Attempt.fail (.rowLength _ _))
        rw [List.length_map]
        split
        · refine .update fun q q' h => h.setInsert (.rows _ ?_)
          exact InsertData.cellsImage_append hrows ⟨by simp, fun _ => rfl⟩
        · exact .fail _

/-- A row by column name is added with the images of its values. -/
theorem parallel_addRow (row : Value) :
    Parallel (Image f) Eq (addRow row) (addRow (row.mapRow f)) := by
  refine Parallel.state.bind fun q q' h => ?_
  have hopen := openRows_image h
  generalize openRows q = given at hopen
  generalize openRows q' = given' at hopen
  cases hopen with
  | none =>
    dsimp only
    rw [itemsOf_mapRow]
    refine .ofExcept_bind fun columns hcolumns => ?_
    refine (Parallel.ofExcept (ownCells_mapRow hcolumns)).bind fun cells cells' hcells => ?_
    exact .update fun q q' h => (h.setKind .insert).setInsert (.rows columns (.cons hcells .nil))
  | @some x y hrel =>
    obtain ⟨columns, rows⟩ := x
    obtain ⟨columns', rows'⟩ := y
    obtain ⟨rfl, hrows⟩ := hrel
    cases columns' with
    | nil =>
      dsimp only
      rw [itemsOf_mapRow]
      refine .ofExcept_bind fun columns hcolumns => ?_
      have hrows' := InsertData.cellsImage_columns hrows columns
      refine Parallel.bind
        (.update fun q q' h => h.setInsert (.rows columns hrows')) fun _ _ _ => ?_
      refine (Parallel.ofExcept (ownCells_mapRow hcolumns)).bind fun cells cells' hcells => ?_
      have hadded := InsertData.cellsImage_append hrows' hcells
      exact .update fun q q' h => h.setInsert (.rows columns hadded)
    | cons column columns =>
      refine (Parallel.ofExcept (matchedCells_mapRow _ row)).bind fun cells cells' hcells => ?_
      exact .update fun q q' h => h.setInsert (.rows _ (InsertData.cellsImage_append hrows hcells))

/-- An update starts with the images of its values. -/
theorem parallel_startUpdate (data : Value) :
    Parallel (Image f) Eq (startUpdate data) (startUpdate (data.mapPairs f)) := by
  refine Parallel.bind (.update fun q q' h => h.setKind .update) fun _ _ _ => ?_
  rw [mapOf_mapPairs]
  cases mapOf data with
  | error failure => exact .fail failure
  | ok entries =>
    refine .update ?_
    rintro q _ ⟨data, rfl, hdata⟩
    exact ⟨data, rfl, hdata⟩

/-- A join holds no values. -/
theorem parallel_addJoin (table left operator right : Value) (kind : Option Value) :
    Parallel (Image f) Eq (addJoin table left operator right kind)
      (addJoin table left operator right kind) := by
  unfold addJoin
  split
  · split
    · exact parallel_set (fun _ _ => rfl) fun _ => rfl
    · exact .fail _
  · exact .fail _

theorem parallel_addGroupBy (columns : List Value) :
    Parallel (Image f) Eq (addGroupBy columns) (addGroupBy columns) := by
  induction columns with
  | nil => exact .pure rfl
  | cons v rest ih =>
    refine .ofExcept_bind fun columns _ => ?_
    exact Parallel.bind (parallel_set (fun _ _ => rfl) fun _ => rfl) fun _ _ _ => ih

end Query

/-- A call with replaced values does to the image of a query what the call does to the query. -/
theorem Clause.parallel_apply (call : Clause) :
    Attempt.Parallel (Query.Image f) Eq call.apply (call.mapValues f).apply := by
  cases call with
  | table name label => exact Query.parallel_set (fun _ _ => rfl) fun _ => rfl
  | select columns =>
    refine Attempt.Parallel.bind (Query.parallel_set (fun _ _ => rfl) fun _ => rfl) fun _ _ _ => ?_
    exact .ofExcept_bind fun columns _ => Query.parallel_set (fun _ _ => rfl) fun _ => rfl
  | insert data => exact Query.parallel_startInsert data
  | insertColumns columns =>
    refine Attempt.Parallel.bind (Query.parallel_set (fun _ _ => rfl) fun _ => rfl) fun _ _ _ => ?_
    exact .ofExcept_bind fun columns _ => Query.parallel_setColumns columns
  | values row => exact Query.parallel_addValues row
  | insertRow row => exact Query.parallel_addRow row
  | update data => exact Query.parallel_startUpdate data
  | delete => exact Query.parallel_set (fun _ _ => rfl) fun _ => rfl
  | join table left operator right kind =>
    exact Query.parallel_addJoin table left operator right kind
  | having column operator value connector =>
    refine .ofExcept_bind fun connector _ => .update ?_
    rintro q _ ⟨data, rfl, hdata⟩
    exact ⟨data, by simp [Query.mapValues, Token.mapValues, Test.mapValues], hdata⟩
  | groupBy columns => exact Query.parallel_addGroupBy columns
  | orderBy expression direction =>
    exact .ofExcept_bind fun entry _ => Query.parallel_set (fun _ _ => rfl) fun _ => rfl
  | limit count =>
    exact .ofExcept_bind fun n _ => Query.parallel_set (fun _ _ => rfl) fun _ => rfl
  | offset count =>
    exact .ofExcept_bind fun n _ => Query.parallel_set (fun _ _ => rfl) fun _ => rfl
  | condition call =>
    rw [mapValues, apply, apply, ConditionCall.added_mapValues]
    refine Attempt.Parallel.bind (.update ?_) fun _ _ _ => .ofExcept (.refl _)
    rintro q _ ⟨data, rfl, hdata⟩
    exact ⟨data, by simp [Query.mapValues], hdata⟩

end BoundSql
