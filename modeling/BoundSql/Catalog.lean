import BoundSql.Attempt
import BoundSql.Text.Blank

/-!
# Table catalogs

A catalog remembers the names of the tables from the first time they are asked for until it is
told to forget them. What is fetched may be anything; only texts that are not blank become names,
without the blanks around them. A fetch that fails leaves nothing behind.
-/

namespace BoundSql

/-- The names of the tables, once they are fetched. -/
structure Catalog where
  /-- The names without repetition; none before a fetch. -/
  names : Option (List String)
  deriving DecidableEq, Repr

namespace Catalog

/-- A catalog that knows nothing. -/
def empty : Catalog := ⟨none⟩

/-- Whether the names are known. -/
def isLoaded (c : Catalog) : Bool := c.names.isSome

/-- The table that an entry names, if it names one. -/
def nameOf? : Value → Option String
  | .text s => if Text.trim s = "" then none else some (Text.trim s)
  | _ => none

/-- The tables that entries name, each once. -/
def namesOf (entries : List Value) : List String := (entries.filterMap nameOf?).eraseDups

variable {σ : Type}

/-- The names, fetched when they are not known; a fetch is announced with the number of names. -/
def tables (catalog : Part σ Catalog) (fetch : Attempt σ (List Value))
    (announce : Nat → Attempt σ Unit) : Attempt σ (List String) := do
  match (catalog.get (← .state)).names with
  | some names => pure names
  | none => do
    let names := namesOf (← fetch)
    .update fun s => catalog.put ⟨some names⟩ s
    announce names.length
    pure names

/-- Whether a table is among the names; an empty name is not, and is not looked for. -/
def hasTable (catalog : Part σ Catalog) (fetch : Attempt σ (List Value))
    (announce : Nat → Attempt σ Unit) (name : Value) : Attempt σ Bool := do
  if name.truthy then
    let names ← tables catalog fetch announce
    match name with
    | .text s => pure (names.contains s)
    | v => if v.isKey then pure false else .fail .mistyped
  else pure false

/-- Fetch the names now, if they are not known. -/
def preload (catalog : Part σ Catalog) (fetch : Attempt σ (List Value))
    (announce : Nat → Attempt σ Unit) : Attempt σ Unit := do
  let _ ← tables catalog fetch announce
  pure ()

/-- Forget the names. -/
def invalidate (catalog : Part σ Catalog) : Attempt σ Unit :=
  .update fun s => catalog.put empty s

end Catalog

end BoundSql
