import BoundSql.Query.Clause
import Mathlib.Data.List.Forall2

/-!
# Adding a row

A row is added behind the rows of an insert that is under way with declared columns, or begins a new
one. A row given as a sequence has to be as long as the declared columns; a row given by name has to
have each of them, and declares its own where none are declared. A row that is refused leaves the
query as it was.
-/

namespace BoundSql

open Attempt

namespace Entries

variable {κ ν : Type}

/-- A value is found under each key that is present. -/
theorem isSome_find? (same : κ → κ → Bool) (key : κ) (entries : Entries κ ν) :
    (find? same key entries).isSome = has same key entries := by
  induction entries with
  | nil => rfl
  | cons entry rest ih =>
    rw [find?, has, List.any_cons]
    cases hkey : same entry.1 key with
    | true => rfl
    | false => simpa [has] using ih

/-- No key is the same as one in front of it. -/
def Distinct (same : κ → κ → Bool) (entries : Entries κ ν) : Prop :=
  entries.keys.Pairwise fun key later => same key later = false

/-- Among distinct keys each entry is found under its key. -/
theorem Distinct.find?_eq {same : κ → κ → Bool} {entries : Entries κ ν}
    (h : Distinct same entries) {key : κ} (hself : same key key = true) {value : ν}
    (hm : (key, value) ∈ entries) : find? same key entries = some value := by
  induction entries with
  | nil => cases hm
  | cons entry rest ih =>
    obtain ⟨hfront, hrest⟩ := List.pairwise_cons.mp h
    rw [find?]
    rcases List.mem_cons.mp hm with rfl | hm
    · rw [if_pos hself]
    · have hother : same entry.1 key = false := hfront key (List.mem_map.mpr ⟨_, hm, rfl⟩)
      rw [if_neg (Bool.eq_false_iff.mp hother)]
      exact ih hrest hm

/-- Writing keeps keys distinct. -/
theorem Distinct.put {same : κ → κ → Bool} {entries : Entries κ ν} (h : Distinct same entries)
    (key : κ) (value : ν) : Distinct same (put same key value entries) := by
  rw [Distinct, keys_put]
  split
  · exact h
  · rename_i habsent
    refine List.pairwise_append.mpr ⟨h, List.pairwise_singleton _ _, ?_⟩
    intro k hk last hlast
    rw [List.mem_singleton.mp hlast]
    obtain ⟨entry, hentry, rfl⟩ := List.mem_map.mp hk
    simp only [has, List.any_eq_true, not_exists, not_and, Bool.not_eq_true] at habsent
    exact habsent entry hentry

/-- What is found stands under a key that is the same. -/
theorem exists_mem_of_find? {same : κ → κ → Bool} {key : κ} {entries : Entries κ ν} {value : ν}
    (h : find? same key entries = some value) : ∃ k, same k key = true ∧ (k, value) ∈ entries := by
  induction entries with
  | nil => cases h
  | cons entry rest ih =>
    rw [find?] at h
    split at h
    · rename_i hkey
      cases h
      exact ⟨entry.1, hkey, List.mem_cons_self⟩
    · obtain ⟨k, hkey, hm⟩ := ih h
      exact ⟨k, hkey, List.mem_cons_of_mem _ hm⟩

/-- The map written by a list of pairs has distinct keys. -/
theorem distinct_ofPairs (same : κ → κ → Bool) (pairs : List (κ × ν)) :
    Distinct same (ofPairs same pairs) := by
  have hfold : ∀ entries : Entries κ ν, Distinct same entries →
      Distinct same (pairs.foldl (fun entries pair => put same pair.1 pair.2 entries) entries) := by
    induction pairs with
    | nil => exact fun entries h => h
    | cons pair rest ih => exact fun entries h => ih _ (h.put pair.1 pair.2)
  exact hfold [] .nil

end Entries

namespace Query

/-- The columns that are declared for further rows. -/
def declared (q : Query) : List Value := ((openRows q).map Prod.fst).getD []

/-- The rows behind which further rows are added. -/
def openedRows (q : Query) : List (List Value) := ((openRows q).map Prod.snd).getD []

/-- The query with more rows at the end, under some columns. -/
def withRows (q : Query) (columns : List Value) (rows : List (List Value)) : Query :=
  { q with kind := .insert, insert := some (.rows columns (q.openedRows ++ rows)) }

@[simp] theorem declared_withRows (q : Query) (columns : List Value) (rows : List (List Value)) :
    (q.withRows columns rows).declared = columns := rfl

/-- Rows are added behind each other. -/
theorem withRows_withRows (q : Query) (columns : List Value) (rows more : List (List Value)) :
    (q.withRows columns rows).withRows columns more = q.withRows columns (rows ++ more) := by
  have hopened : (q.withRows columns rows).openedRows = q.openedRows ++ rows := rfl
  rw [withRows, hopened, List.append_assoc]
  rfl

/-- The columns of rows that are open are declared. -/
theorem declared_of_openRows {q : Query} {columns : List Value} {rows : List (List Value)}
    (h : openRows q = some (columns, rows)) : q.declared = columns := by
  rw [declared, h]
  rfl

/-- Where rows are added already, the query stays an insert. -/
theorem withRows_of_openRows {q : Query} {columns : List Value} {rows : List (List Value)}
    (h : openRows q = some (columns, rows)) (columns' : List Value) (more : List (List Value)) :
    q.withRows columns' more = { q with insert := some (.rows columns' (rows ++ more)) } := by
  have hkind : q.kind = .insert := by
    unfold openRows at h
    split at h
    · assumption
    · cases h
  rw [withRows, openedRows, h, ← hkind]
  rfl

/-- The cells of a row in some columns, as far as it has them. -/
def cellsIn (columns : List Value) (row : Row) : List Value :=
  columns.filterMap fun column => Entries.find? Value.sameKey column row

/-- Whether a row has a column. -/
def HasColumn (row : Row) (column : Value) : Prop :=
  column.isKey = true ∧ Entries.has Value.sameKey column row = true

/-- Why a row lacks a column: it is no key of the row, which the failure says if the column can be
written, or cannot be a key at all. -/
def Lacks (row : Row) (declared : List Value) (column : Value) (failure : Failure) : Prop :=
  (column.isKey = true ∧ Entries.has Value.sameKey column row = false ∧
      failure = .naming column (.missingColumn column declared)) ∨
    (column.isKey = false ∧ failure = .mistyped)

/-- What is asked for the columns of a row stops at the first one that it lacks. -/
theorem requireColumns_map (row : Row) (declared columns : List Value) :
    (requireColumns (.map row) declared columns = .ok () ∧
        ∀ column ∈ columns, HasColumn row column) ∨
      ∃ front column back failure, columns = front ++ column :: back ∧
        (∀ column ∈ front, HasColumn row column) ∧ Lacks row declared column failure ∧
        requireColumns (.map row) declared columns = .error failure := by
  induction columns with
  | nil => exact .inl ⟨rfl, nofun⟩
  | cons column rest ih =>
    have hstep : requireColumns (.map row) declared (column :: rest) =
        (hasColumn (.map row) column >>= fun has =>
          if has then requireColumns (.map row) declared rest
          else .error (.naming column (.missingColumn column declared))) := rfl
    rw [hstep, hasColumn]
    cases hkey : column.isKey with
    | false => exact .inr ⟨[], column, rest, _, rfl, nofun, .inr ⟨hkey, rfl⟩, rfl⟩
    | true =>
      cases hhas : Entries.has Value.sameKey column row with
      | false => exact .inr ⟨[], column, rest, _, rfl, nofun, .inl ⟨hkey, hhas, rfl⟩, rfl⟩
      | true =>
        have hfirst : HasColumn row column := ⟨hkey, hhas⟩
        rcases ih with ⟨hok, hall⟩ | ⟨front, lacked, back, failure, rfl, hfront, hlacks, herror⟩
        · exact .inl ⟨hok, List.forall_mem_cons.mpr ⟨hfirst, hall⟩⟩
        · exact .inr ⟨column :: front, lacked, back, failure, rfl,
            List.forall_mem_cons.mpr ⟨hfirst, hfront⟩, hlacks, herror⟩

/-- A value is found in a column that a row has. -/
theorem HasColumn.exists_find? {row : Row} {column : Value} (h : HasColumn row column) :
    ∃ cell, Entries.find? Value.sameKey column row = some cell := by
  rw [← Option.isSome_iff_exists, Entries.isSome_find?]
  exact h.2

theorem cellsIn_cons {row : Row} {column cell : Value}
    (h : Entries.find? Value.sameKey column row = some cell) (columns : List Value) :
    cellsIn (column :: columns) row = cell :: cellsIn columns row :=
  List.filterMap_cons_some (f := fun column => Entries.find? Value.sameKey column row) h

/-- A row that has all columns has a cell in each. -/
theorem map_find?_eq {row : Row} {columns : List Value}
    (h : ∀ column ∈ columns, HasColumn row column) :
    (columns.map fun column => Entries.find? Value.sameKey column row) =
      (cellsIn columns row).map some := by
  induction columns with
  | nil => rfl
  | cons column rest ih =>
    obtain ⟨hfirst, hrest⟩ := List.forall_mem_cons.mp h
    obtain ⟨value, hvalue⟩ := hfirst.exists_find?
    rw [cellsIn_cons hvalue, List.map_cons, List.map_cons, hvalue, ih hrest]

/-- The cells of a row that has all columns can be taken. -/
theorem mapM_cell {row : Row} {columns : List Value}
    (h : ∀ column ∈ columns, HasColumn row column) :
    columns.mapM (cell (.map row)) = .ok (cellsIn columns row) := by
  induction columns with
  | nil => rfl
  | cons column rest ih =>
    obtain ⟨hfirst, hrest⟩ := List.forall_mem_cons.mp h
    obtain ⟨value, hvalue⟩ := hfirst.exists_find?
    have hcell : cell (.map row) column = .ok value := by rw [cell, hvalue]
    rw [List.mapM_cons, hcell, ih hrest, cellsIn_cons hvalue]
    rfl

/-- What becomes of a query when a row is given as a sequence of cells. -/
inductive ValuesStep (q : Query) (cells : List Value) : Except Failure Unit × Query → Prop
  /-- It is refused where no columns are declared. -/
  | noColumns (h : q.declared = []) : ValuesStep q cells (.error (.noColumns cells.length), q)
  /-- It is refused where it is not as long as the declared columns. -/
  | rowLength (h : q.declared ≠ []) (hlength : cells.length ≠ q.declared.length) :
    ValuesStep q cells (.error (.rowLength q.declared.length cells.length), q)
  /-- It is added. -/
  | added (h : q.declared ≠ []) (hlength : cells.length = q.declared.length) :
    ValuesStep q cells (.ok (), q.withRows q.declared [cells])

/-- What becomes of a query when a row is given by name. -/
inductive NamedStep (q : Query) (row : Row) : Except Failure Unit × Query → Prop
  /-- It declares its own columns where none are declared. -/
  | declared (h : q.declared = []) :
    NamedStep q row (.ok (), q.withRows (Entries.keys row) [Entries.values row])
  /-- It is refused for the first declared column that it lacks. -/
  | refused {front back : List Value} {column : Value} {failure : Failure}
    (h : q.declared = front ++ column :: back) (hfront : ∀ column ∈ front, HasColumn row column)
    (hlacks : Lacks row q.declared column failure) : NamedStep q row (.error failure, q)
  /-- It is added with its cells in the declared columns. -/
  | added (h : q.declared ≠ []) (hall : ∀ column ∈ q.declared, HasColumn row column) :
    NamedStep q row (.ok (), q.withRows q.declared [cellsIn q.declared row])

/-- A row given as a sequence is added whole, or refused with the query as it was. -/
theorem valuesStep {row : Value} {cells : List Value} (h : itemsOf row = .ok cells) (q : Query) :
    ValuesStep q cells ((addValues row).run q) := by
  have hsize : row.size? = some cells.length := by
    unfold itemsOf at h
    split at h
    · rename_i items hitems
      cases h
      rw [Value.size?, hitems]
      rfl
    · cases h
  rw [addValues, run_bind, run_state]
  dsimp only
  split
  · rename_i column columns rows hopen
    have hdeclared : q.declared = column :: columns := declared_of_openRows hopen
    have hne : q.declared ≠ [] := hdeclared ▸ List.cons_ne_nil _ _
    rw [h, run_bind, run_ofExcept]
    dsimp only
    rw [← hdeclared]
    split
    · rename_i hlength
      rw [run_update, ← withRows_of_openRows hopen]
      exact .added hne hlength
    · rename_i hlength
      exact .rowLength hne hlength
  · rename_i hopen
    have hdeclared : q.declared = [] := by
      cases hrows : openRows q with
      | none => rw [declared, hrows]; rfl
      | some opened =>
        obtain ⟨columns, rows⟩ := opened
        cases columns with
        | nil => exact declared_of_openRows hrows
        | cons column columns => exact absurd hrows (hopen column columns rows)
    rw [hsize]
    exact .noColumns hdeclared

/-- A row given by name is added whole, or refused with the query as it was. -/
theorem namedStep (row : Row) (q : Query) : NamedStep q row ((addRow (.map row)).run q) := by
  rw [addRow, run_bind, run_state]
  dsimp only
  split
  · rename_i column columns rows hopen
    have hdeclared : q.declared = column :: columns := declared_of_openRows hopen
    have hne : q.declared ≠ [] := hdeclared ▸ List.cons_ne_nil _ _
    rw [← hdeclared]
    rcases requireColumns_map row q.declared q.declared with
      ⟨hok, hall⟩ | ⟨front, lacked, back, failure, hsplit, hfront, hlacks, herror⟩
    · have hcells : matchedCells q.declared (.map row) = .ok (cellsIn q.declared row) := by
        rw [matchedCells, hok]
        exact mapM_cell hall
      rw [hcells, run_bind, run_ofExcept]
      dsimp only
      rw [run_update, ← withRows_of_openRows hopen]
      exact .added hne hall
    · have hcells : matchedCells q.declared (.map row) = .error failure := by
        rw [matchedCells, herror]
        rfl
      rw [hcells, run_bind, run_ofExcept]
      exact .refused hsplit hfront hlacks
  · rename_i rows hopen
    have hrun : NamedStep q row
        (.ok (), q.withRows (Entries.keys row) [Entries.values row]) :=
      .declared (declared_of_openRows hopen)
    rw [withRows_of_openRows hopen] at hrun
    exact hrun
  · rename_i hopen
    have hrun : NamedStep q row
        (.ok (), q.withRows (Entries.keys row) [Entries.values row]) := by
      refine .declared ?_
      rw [declared, hopen]
      rfl
    rw [withRows, openedRows, hopen] at hrun
    exact hrun

/-- A row that has all declared columns is added. -/
theorem run_addRow_of_has {row : Row} {q : Query} (hne : q.declared ≠ [])
    (hall : ∀ column ∈ q.declared, HasColumn row column) :
    (addRow (.map row)).run q = (.ok (), q.withRows q.declared [cellsIn q.declared row]) := by
  have hstep := namedStep row q
  generalize (addRow (.map row)).run q = result at hstep ⊢
  cases hstep with
  | declared h => exact absurd h hne
  | @refused front _ column _ h _ hlacks =>
    obtain ⟨hkey, hhas⟩ := hall column (h ▸ List.mem_append_right front List.mem_cons_self)
    rcases hlacks with ⟨_, habsent, _⟩ | ⟨hother, _⟩
    · rw [hhas] at habsent
      cases habsent
    · rw [hkey] at hother
      cases hother
  | added => rfl

/-- A row declares its own columns where none are declared. -/
theorem run_addRow_of_undeclared (row : Row) {q : Query} (h : q.declared = []) :
    (addRow (.map row)).run q =
      (.ok (), q.withRows (Entries.keys row) [Entries.values row]) := by
  have hstep := namedStep row q
  generalize (addRow (.map row)).run q = result at hstep ⊢
  cases hstep with
  | declared => rfl
  | refused hsplit =>
    rw [h] at hsplit
    cases List.append_ne_nil_of_right_ne_nil _ (List.cons_ne_nil _ _) hsplit.symm
  | added hne => exact absurd h hne

/-- The cells of a row in its own columns are its values. -/
theorem cellsIn_keys {row : Row} (h : row.Distinct Value.sameKey)
    (hself : ∀ key ∈ Entries.keys row, Value.sameKey key key = true) :
    cellsIn (Entries.keys row) row = Entries.values row := by
  have hfind : ∀ entry ∈ row, Entries.find? Value.sameKey entry.1 row = some entry.2 :=
    fun entry hm => h.find?_eq (hself _ (List.mem_map_of_mem hm)) hm
  rw [cellsIn, Entries.keys, List.filterMap_map, Entries.values, ← List.filterMap_eq_map]
  exact List.filterMap_congr hfind

/-- A key that is the same as a text is this text. -/
theorem eq_text_of_sameKey {key : Value} {s : String} (h : Value.sameKey key (.text s) = true) :
    key = .text s := by
  cases key with
  | text s' => exact congrArg Value.text (beq_iff_eq.mp h)
  | _ => cases h

/-- A text is the same as itself. -/
theorem sameKey_text (s : String) : Value.sameKey (.text s) (.text s) = true :=
  beq_self_eq_true s

/-- A value that a row has under a text is found in every row of distinct keys that has its
entries. -/
theorem find?_of_subset {row row' : Row} (hdistinct : row'.Distinct Value.sameKey)
    (hsub : row ⊆ row') {name : String} {value : Value}
    (h : Entries.find? Value.sameKey (.text name) row = some value) :
    Entries.find? Value.sameKey (.text name) row' = some value := by
  obtain ⟨key, hkey, hm⟩ := Entries.exists_mem_of_find? h
  rw [eq_text_of_sameKey hkey] at hm
  exact hdistinct.find?_eq (sameKey_text name) (hsub hm)

/-- Rows of distinct keys that have the entries of other rows have the same cells in columns that
these have. -/
theorem cellsIn_of_subset {row row' : Row} (hdistinct : row'.Distinct Value.sameKey)
    (hsub : row ⊆ row') {names : List String}
    (h : ∀ name ∈ names, HasColumn row (.text name)) :
    cellsIn (names.map Value.text) row' = cellsIn (names.map Value.text) row := by
  refine List.filterMap_congr fun column hcolumn => ?_
  obtain ⟨name, hname, rfl⟩ := List.mem_map.mp hcolumn
  obtain ⟨cell, hcell⟩ := (h name hname).exists_find?
  rw [hcell, find?_of_subset hdistinct hsub hcell]

/-- They have these columns, too. -/
theorem HasColumn.of_subset {row row' : Row} (hdistinct : row'.Distinct Value.sameKey)
    (hsub : row ⊆ row') {name : String} (h : HasColumn row (.text name)) :
    HasColumn row' (.text name) := by
  obtain ⟨cell, hcell⟩ := h.exists_find?
  refine ⟨rfl, ?_⟩
  rw [← Entries.isSome_find?, find?_of_subset hdistinct hsub hcell]
  rfl

/-- A row has its own columns that are texts. -/
theorem hasColumn_own {row : Row} {name : String} (h : .text name ∈ Entries.keys row) :
    HasColumn row (.text name) := by
  obtain ⟨entry, hentry, hkey⟩ := List.mem_map.mp h
  refine ⟨rfl, List.any_eq_true.mpr ⟨entry, hentry, ?_⟩⟩
  rw [hkey]
  exact sameKey_text name

/-- Rows that have the entries of other rows, perhaps in another order and with more, have the same
cells as these. -/
theorem map_cellsIn_of_subset {names : List String} {rows rows' : List Row}
    (h : List.Forall₂ (fun row row' : Row => row'.Distinct Value.sameKey ∧ row ⊆ row') rows rows')
    (hhas : ∀ row ∈ rows, ∀ name ∈ names, HasColumn row (.text name)) :
    rows'.map (cellsIn (names.map Value.text)) = rows.map (cellsIn (names.map Value.text)) ∧
      ∀ row ∈ rows', ∀ name ∈ names, HasColumn row (.text name) := by
  induction h with
  | nil => exact ⟨rfl, nofun⟩
  | cons hrow _ ih =>
    obtain ⟨hdistinct, hsub⟩ := hrow
    obtain ⟨hfirst, hrest⟩ := List.forall_mem_cons.mp hhas
    obtain ⟨hcells, hall⟩ := ih hrest
    rw [List.map_cons, List.map_cons, hcells, cellsIn_of_subset hdistinct hsub hfirst]
    exact ⟨rfl, List.forall_mem_cons.mpr
      ⟨fun name hname => (hfirst name hname).of_subset hdistinct hsub, hall⟩⟩

end Query

end BoundSql
