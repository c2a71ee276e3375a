import BoundSql.Query.Clause

/-!
# The values in calls and queries

A call carries values to be bound beside the columns, operators and options that become text. Here
the values of a call, and of the query that calls build, are replaced by their images under a
function. What a call makes of its arguments commutes with the replacement, because it looks at
keys, lengths and types only.
-/

namespace BoundSql

variable (f : Value → Value)

namespace Entries

variable {κ : Type}

/-- Entries with their values replaced by their images. -/
def mapValues {ν μ : Type} (f : ν → μ) (entries : Entries κ ν) : Entries κ μ :=
  entries.map fun entry => (entry.1, f entry.2)

@[simp] theorem keys_mapValues {ν μ : Type} (f : ν → μ) (entries : Entries κ ν) :
    keys (mapValues f entries) = keys entries := by
  simp [keys, mapValues, Function.comp_def]

/-- The values of an insert become their images. -/
@[simp] theorem values_mapValues {ν μ : Type} (f : ν → μ) (entries : Entries κ ν) :
    values (mapValues f entries) = (values entries).map f := by
  simp [values, mapValues, Function.comp_def]

/-- A key is there whatever its value is. -/
theorem has_mapValues {ν μ : Type} (f : ν → μ) (same : κ → κ → Bool) (key : κ)
    (entries : Entries κ ν) : has same key (mapValues f entries) = has same key entries := by
  simp [has, mapValues, Function.comp_def]

/-- Looking a key up finds the image of its value. -/
theorem find?_mapValues {ν μ : Type} (f : ν → μ) (same : κ → κ → Bool) (key : κ)
    (entries : Entries κ ν) :
    find? same key (mapValues f entries) = (find? same key entries).map f := by
  induction entries with
  | nil => rfl
  | cons entry rest ih =>
    simp only [mapValues, List.map_cons, find?] at ih ⊢
    split
    · rfl
    · exact ih

/-- Storing the image of a value is storing the value and taking images. -/
theorem put_mapValues {ν μ : Type} (f : ν → μ) (same : κ → κ → Bool) (key : κ) (value : ν)
    (entries : Entries κ ν) :
    put same key (f value) (mapValues f entries) = mapValues f (put same key value entries) := by
  induction entries with
  | nil => rfl
  | cons entry rest ih =>
    simp only [mapValues, List.map_cons, put] at ih ⊢
    split
    · rfl
    · rw [ih, List.map_cons]

/-- A list of pairs writes the same keys whatever its values are. -/
theorem ofPairs_mapValues {ν μ : Type} (f : ν → μ) (same : κ → κ → Bool)
    (pairs : List (κ × ν)) :
    ofPairs same (mapValues f pairs) = mapValues f (ofPairs same pairs) := by
  have hfold : ∀ entries : Entries κ ν,
      (mapValues f pairs).foldl (fun es pair => put same pair.1 pair.2 es) (mapValues f entries) =
        mapValues f (pairs.foldl (fun es pair => put same pair.1 pair.2 es) entries) := by
    induction pairs with
    | nil => exact fun _ => rfl
    | cons pair rest ih =>
      intro entries
      simp only [mapValues, List.map_cons, List.foldl_cons] at ih ⊢
      have hput := put_mapValues f same pair.1 pair.2 entries
      rw [mapValues, mapValues] at hput
      rw [hput]
      exact ih _
  exact hfold []

end Entries

namespace Value

/-- A value that lists values to be bound, with each of them replaced by its image. -/
def mapItems (v : Value) : Value :=
  match v.items? with
  | some items => .list (items.map f)
  | none => v

/-- A pair of a key and a value to be bound, with the value replaced by its image. -/
def mapPair (item : Value) : Value :=
  match item.items? with
  | some [key, value] => .list [key, f value]
  | _ => item

/-- A map, or a sequence of pairs, with the values under its keys replaced by their images. -/
def mapPairs : Value → Value
  | map entries => map (Entries.mapValues f entries)
  | v =>
    match v.items? with
    | some items => .list (items.map (mapPair f))
    | none => v

/-- A row given as a map, with its values replaced by their images. What is no map holds no values
under column names. -/
def mapRow : Value → Value
  | map entries => map (Entries.mapValues f entries)
  | v => v

/-- The items of a list become their images. -/
theorem items?_mapItems (v : Value) : (v.mapItems f).items? = v.items?.map (List.map f) := by
  cases v <;> rfl

/-- The items of a row, which are its keys, stay. -/
theorem items?_mapRow (v : Value) : (v.mapRow f).items? = v.items? := by
  cases v with
  | map entries => simp [mapRow, items?]
  | _ => rfl

end Value

namespace ConditionCall

/-- The call with the values to be bound replaced by their images: those compared with, the items of
a list, the pattern. -/
def mapValues : ConditionCall → ConditionCall
  | compare (.map entries) operator value connector =>
    compare (.map (Entries.mapValues f entries)) operator value connector
  | compare column (some operator) (some value) connector =>
    compare column (some operator) (some (f value)) connector
  | compare column (some value) none connector => compare column (some (f value)) none connector
  | oneOf column values connector negated => oneOf column (values.mapItems f) connector negated
  | like column pattern connector negated => like column (f pattern) connector negated
  | call => call

/-- The equalities of a map compare with the images of its values, up to the same key. -/
theorem equalities_mapValues (connector : Connector) (entries : List (Value × Value)) :
    equalities connector (Entries.mapValues f entries) =
      (equalities connector entries).map (List.map (Token.mapValues f)) id := by
  induction entries generalizing connector with
  | nil => rfl
  | cons entry rest ih =>
    have hrest : equalities .and (Entries.mapValues f rest) = _ := ih .and
    simp only [Entries.mapValues] at hrest
    simp only [Entries.mapValues, List.map_cons, equalities, hrest]
    cases entry.1.write <;> rfl

/-- Whether a membership test has values does not depend on which. -/
theorem membership_map (column : Value) (items : List Value) (negated : Value) :
    Test.membership column (items.map f) negated =
      (Test.membership column items negated).mapValues f := by
  cases items <;> rfl

/-- A comparison whose last argument becomes its image compares with the image. -/
theorem comparison_mapValues (column operator value : Value) :
    comparison column (some operator) (some (f value)) =
      (comparison column (some operator) (some value)).map (Test.mapValues f) := by
  rw [comparison, comparison]
  cases operator.write <;> rfl

/-- A call adds the same members, with the images of its values, and ends alike. -/
theorem added_mapValues (call : ConditionCall) :
    (call.mapValues f).added = call.added.map (List.map (Token.mapValues f)) id := by
  cases call with
  | compare column operator value connector =>
    cases column with
    | map entries =>
      rw [mapValues, added, added]
      cases Connector.ofArgument connector with
      | ok c => exact equalities_mapValues f c entries
      | error failure => rfl
    | _ =>
      rcases operator with _ | operator <;> rcases value with _ | value <;>
        simp only [mapValues, added, test, comparison_mapValues] <;>
        cases Connector.ofArgument connector <;> try rfl
      all_goals
        simp only [comparison]
        cases operator.write <;> rfl
  | oneOf column values connector negated =>
    simp only [mapValues, added, test, Value.items?_mapItems]
    cases values.items? with
    | none => rfl
    | some items =>
      simp only [Option.map_some, membership_map]
      cases Connector.ofArgument connector <;> rfl
  | isNull column connector negated =>
    simp only [mapValues, added, test]
    cases column.write <;> cases Connector.ofArgument connector <;> rfl
  | like column pattern connector negated =>
    simp only [mapValues, added, test]
    cases Connector.ofArgument connector <;> rfl
  | raw sql connector =>
    simp only [mapValues, added, test]
    cases Connector.ofArgument connector <;> rfl

end ConditionCall

namespace Clause

/-- The call with the values to be bound replaced by their images. -/
def mapValues : Clause → Clause
  | insert (.map entries) => insert (.map (Entries.mapValues f entries))
  | values row => values (row.mapItems f)
  | insertRow row => insertRow (row.mapRow f)
  | update data => update (data.mapPairs f)
  | having column operator value connector => having column operator (f value) connector
  | condition call => condition (call.mapValues f)
  | clause => clause

end Clause

namespace InsertData

/-- The values of an insert, row by row and in the order of the columns. -/
def values : InsertData → List Value
  | single row => Entries.values row
  | rows _ cells => cells.flatten

/-- The data with its values replaced by their images. -/
def mapValues : InsertData → InsertData
  | single row => single (Entries.mapValues f row)
  | rows columns cells => rows columns (cells.map (List.map f))

theorem values_mapValues (data : InsertData) :
    (data.mapValues f).values = data.values.map f := by
  cases data with
  | single row => exact Entries.values_mapValues f row
  | rows columns cells => exact List.map_flatten.symm

end InsertData

/-- The values of a condition become their images. -/
theorem Token.values_mapValues (token : Token) :
    (token.mapValues f).values = token.values.map f := by
  cases token with
  | test c t => cases t <;> rfl
  | _ => rfl

namespace Query

/-- The values of a condition list, in the order of their placeholders. -/
def conditionValues (tokens : List Token) : List Value := tokens.flatMap Token.values

/-- The values that a statement of the query's kind binds, in the order of its text. -/
def boundValues (q : Query) : List Value :=
  match q.kind with
  | .select => conditionValues q.wheres ++ conditionValues q.having
  | .insert => (q.insert.map InsertData.values).getD []
  | .update => Entries.values q.update ++ conditionValues q.wheres
  | .delete => conditionValues q.wheres
  | _ => []

/-- The query with its values replaced by their images. -/
def mapValues (q : Query) : Query :=
  { q with
    wheres := q.wheres.map (Token.mapValues f)
    having := q.having.map (Token.mapValues f)
    insert := q.insert.map (InsertData.mapValues f)
    update := Entries.mapValues f q.update }

theorem conditionValues_mapValues (tokens : List Token) :
    conditionValues (tokens.map (Token.mapValues f)) = (conditionValues tokens).map f := by
  simp [conditionValues, List.flatMap_map, List.map_flatMap, Token.values_mapValues]

/-- The statement of the replaced query binds the images of the values. -/
theorem boundValues_mapValues (q : Query) :
    (q.mapValues f).boundValues = q.boundValues.map f := by
  have hinsert : ((q.insert.map (InsertData.mapValues f)).map InsertData.values).getD [] =
      ((q.insert.map InsertData.values).getD []).map f := by
    cases q.insert with
    | none => rfl
    | some data => exact InsertData.values_mapValues f data
  unfold boundValues mapValues
  cases q.kind <;>
    simp only [conditionValues_mapValues, hinsert, Entries.values_mapValues, List.map_append,
      List.map_nil]

end Query

end BoundSql
