import BoundSql.Dialect
import BoundSql.Value.Number

/-!
# Settings

What the builders of one session share: the target dialect and the bounds of page sizes. Settings
are a checked record; a page size asked for is brought between one and the greatest size allowed.
-/

namespace BoundSql

/-- The settings of a session. -/
structure Settings where
  /-- The dialect statements are rendered in. -/
  target : Target
  /-- The page size when none is asked for. -/
  defaultPageSize : Nat
  /-- The greatest page size, if there is one. -/
  maxPageSize : Option Nat
  deriving DecidableEq, Repr

namespace Settings

/-- The settings when none are given. -/
def standard : Settings := ⟨.sqlite, 20, none⟩

/-- The fields of the record, in order. -/
def fieldNames : List String := ["target", "default_per_page", "max_per_page"]

/-- A page size bound that may be left out by giving null. -/
def optionalSize : Value → Except Record.Fault (Option Nat)
  | .null => .ok none
  | v => (Record.positive v).map some

/-- Read a field if it is given; its standard value otherwise. -/
def readField {α : Type} (given : Option Value) (standard : α)
    (read : Value → Except Record.Fault α) : Except Record.Fault α :=
  match given with
  | none => .ok standard
  | some v => read v

/-- Make settings from named values. -/
def ofFields (fields : Entries String Value) : Except Record.Report Settings :=
  let given := fun name => Entries.find? (· == ·) name fields
  let target := readField (given "target") standard.target (Record.oneOf Target.byName)
  let size := readField (given "default_per_page") standard.defaultPageSize Record.positive
  let greatest := readField (given "max_per_page") standard.maxPageSize optionalSize
  match target, size, greatest, fields.filter fun f => !fieldNames.contains f.1 with
  | .ok target, .ok size, .ok greatest, [] => .ok ⟨target, size, greatest⟩
  | _, _, _, extra =>
    let valueOf := fun name => (given name).getD .null
    .error ⟨"QueryConfig",
      Record.issue "target" (valueOf "target") target ++
        Record.issue "default_per_page" (valueOf "default_per_page") size ++
        Record.issue "max_per_page" (valueOf "max_per_page") greatest ++
        extra.map fun f => ⟨[f.1], .unknownField, f.2⟩⟩

/-- A page size as asked for: the default when none is, and one when it is not above one. -/
def askedPageSize (s : Settings) : Value → Except Failure Number
  | .null => .ok (.int s.defaultPageSize)
  | v =>
    match v.number? with
    | none => .error .mistyped
    | some x => .ok (if x.above 1 then x else .int 1)

/-- The page size used: what is asked for, but not above the greatest size. -/
def pageSize (s : Settings) (asked : Value) : Except Failure Number := do
  let size ← s.askedPageSize asked
  match s.maxPageSize with
  | none => .ok size
  | some greatest => .ok (if size.above greatest then .int greatest else size)

end Settings

end BoundSql
