import BoundSql.Query.Statement

/-!
# Columns and tables that can be written

The columns of a select, of its groups and of an insert are written as they are, so each has to be a
text. Columns that are not cannot be written, and nothing else can go wrong with them. A table and
its label need not be texts, only writable.
-/

namespace BoundSql.Query

/-- Whether columns can be written into a statement. -/
def AllTexts (columns : List Value) : Prop := ∀ column ∈ columns, ∃ s, column = .text s

/-- Columns are written as the texts that they are. -/
theorem eq_map_of_columnTexts {columns : List Value} {texts : List String}
    (h : columnTexts columns = .ok texts) : columns = texts.map Value.text := by
  induction columns generalizing texts with
  | nil =>
    cases h
    rfl
  | cons column rest ih =>
    cases column with
    | text s =>
      cases hrest : columnTexts rest with
      | error failure => simp [columnTexts, hrest, Except.map] at h
      | ok others =>
        simp only [columnTexts, hrest, Except.map, Except.ok.injEq] at h
        rw [← h, List.map_cons, ← ih hrest]
    | _ => cases h

/-- Columns that are written are texts. -/
theorem allTexts_of_columnTexts {columns : List Value} {texts : List String}
    (h : columnTexts columns = .ok texts) : AllTexts columns := by
  intro column hm
  rw [eq_map_of_columnTexts h] at hm
  obtain ⟨s, _, hs⟩ := List.mem_map.mp hm
  exact ⟨s, hs.symm⟩

/-- Columns fail to be written only because they are no texts. -/
theorem columnTexts_eq_error {columns : List Value} {failure : Failure}
    (h : columnTexts columns = .error failure) : failure = .mistyped ∧ ¬AllTexts columns := by
  induction columns generalizing failure with
  | nil => cases h
  | cons column rest ih =>
    cases column with
    | text s =>
      cases hrest : columnTexts rest with
      | error other =>
        simp only [columnTexts, hrest, Except.map, Except.error.injEq] at h
        obtain ⟨hother, htexts⟩ := ih hrest
        exact ⟨h ▸ hother, fun hall => htexts fun column hm => hall column (.tail _ hm)⟩
      | ok others => simp [columnTexts, hrest, Except.map] at h
    | _ =>
      refine ⟨by cases h; rfl, fun hall => ?_⟩
      obtain ⟨s, hs⟩ := hall _ List.mem_cons_self
      cases hs

/-- Columns that are texts are written. -/
theorem AllTexts.columnTexts {columns : List Value} (h : AllTexts columns) :
    ∃ texts, columnTexts columns = .ok texts := by
  cases hcolumns : Query.columnTexts columns with
  | ok texts => exact ⟨texts, rfl⟩
  | error failure => exact absurd h (columnTexts_eq_error hcolumns).2

/-- The column of a fresh query is a text. -/
theorem allTexts_fresh : AllTexts fresh.columns :=
  allTexts_of_columnTexts (rfl : columnTexts fresh.columns = .ok ["*"])

/-- The table of a query, and its label, can be written. -/
structure Named (q : Query) : Prop where
  /-- The table can be written. -/
  table : q.table.isWritable = true
  /-- The label can be written. -/
  label : q.label.isWritable = true

variable {q : Query} {failure : Failure}

theorem named_iff : q.Named ↔ (q.table.isWritable && q.label.isWritable) = true := by
  rw [Bool.and_eq_true]
  exact ⟨fun h => ⟨h.table, h.label⟩, fun h => ⟨h.1, h.2⟩⟩

/-- A table is written with its label, if it has one. -/
theorem Named.labelledTable (h : q.Named) : q.labelledTable =
    .ok (if q.label.truthy then q.table.plain ++ " " ++ q.label.plain else q.table.plain) := by
  unfold Query.labelledTable
  rw [Value.write_of_isWritable h.table, Value.write_of_isWritable h.label]
  split <;> rfl

/-- A table fails to be written only because it or its label cannot be. -/
theorem labelledTable_eq_error (h : q.labelledTable = .error failure) :
    failure = .malformed ∧ ¬q.Named := by
  have hnamed : ¬q.Named := by
    intro hnamed
    rw [hnamed.labelledTable] at h
    cases h
  refine ⟨?_, hnamed⟩
  unfold labelledTable at h
  cases htable : q.table.write with
  | error other =>
    obtain ⟨rfl, _⟩ := Value.write_eq_error htable
    rw [htable] at h
    split at h <;> exact (Except.error.inj h).symm
  | ok table =>
    rw [htable] at h
    split at h
    · cases hlabel : q.label.write with
      | error other =>
        obtain ⟨rfl, _⟩ := Value.write_eq_error hlabel
        rw [hlabel] at h
        exact (Except.error.inj h).symm
      | ok label =>
        rw [hlabel] at h
        cases h
    · cases h

/-- A table that is set and can be written passes the check. -/
theorem Named.requireTable (h : q.Named) (htable : q.table.truthy = true) :
    q.requireTable = .ok () := by
  rw [Query.requireTable, htable, h.labelledTable]
  cases q.label.truthy <;> rfl

/-- A value that counts as absent can be written. -/
theorem isWritable_of_falsy {v : Value} (h : v.truthy = false) : v.isWritable = true := by
  cases v with
  | int i =>
    have hzero : i = 0 := by simpa [Value.truthy] using h
    rw [hzero]
    rfl
  | list items =>
    have hnil : items = [] := by simpa [Value.truthy] using h
    rw [hnil]
    rfl
  | map entries =>
    have hnil : entries = [] := by simpa [Value.truthy] using h
    rw [hnil]
    rfl
  | _ => rfl

/-- A table that passes the check has a label that can be written, if it can be itself. -/
theorem named_of_requireTable (h : q.requireTable = .ok ()) (htable : q.table.isWritable = true) :
    q.Named := by
  refine ⟨htable, ?_⟩
  unfold requireTable at h
  split at h
  · cases h
  split at h
  · rename_i hlabel
    cases hwrite : q.label.write with
    | ok label => exact (Value.write_eq_ok.mp hwrite).1
    | error other =>
      rw [labelledTable, if_pos hlabel, Value.write_of_isWritable htable, hwrite] at h
      cases h
  · rename_i hlabel
    exact isWritable_of_falsy (Bool.eq_false_iff.mpr hlabel)

/-- The check fails where no table is set, or it or its label cannot be written. -/
theorem requireTable_eq_error (h : q.requireTable = .error failure) :
    failure = .noTable ∧ q.table.truthy = false ∨
      failure = .malformed ∧ q.table.truthy = true ∧ ¬q.Named := by
  unfold requireTable at h
  cases htable : q.table.truthy with
  | false =>
    rw [htable] at h
    exact .inl ⟨(Except.error.inj h).symm, rfl⟩
  | true =>
    rw [htable] at h
    cases hlabel : q.label.truthy with
    | false =>
      rw [hlabel] at h
      cases h
    | true =>
      rw [hlabel] at h
      cases hwritten : q.labelledTable with
      | ok table =>
        rw [hwritten] at h
        cases h
      | error other =>
        obtain ⟨rfl, hnamed⟩ := labelledTable_eq_error hwritten
        rw [hwritten] at h
        exact .inr ⟨(Except.error.inj h).symm, rfl, hnamed⟩

end BoundSql.Query
