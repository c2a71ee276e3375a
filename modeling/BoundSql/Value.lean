import BoundSql.Binary64
import BoundSql.Entries

/-!
# Values

The values a statement binds, the cells a database returns and the arguments callers pass are of
one dynamic type. Bound values are carried and never inspected; what a call does inspect in its
arguments (is it a map, is it empty, which keys are the same) is defined here.
-/

namespace BoundSql

/-- A dynamic value. -/
inductive Value where
  | null
  | bool (b : Bool)
  | int (i : Int)
  | float (x : Binary64)
  | text (s : String)
  | list (items : List Value)
  | map (entries : List (Value × Value))
  deriving Inhabited, Repr

/-- A row of a result: column names with cells, in column order. -/
abbrev Row := Entries Value Value

namespace Value

/-- Whether a value counts as present: not null, not false, not zero, not empty. -/
def truthy : Value → Bool
  | null => false
  | bool b => b
  | int i => i != 0
  | float x => !x.isZero
  | text s => s != ""
  | list items => !items.isEmpty
  | map entries => !entries.isEmpty

/-- Whether a value can be a key: every value but lists and maps. -/
def isKey : Value → Bool
  | list _ | map _ => false
  | _ => true

/-- Whether two keys are the same. Numbers and truth values are compared by their numeric value. -/
def sameKey : Value → Value → Bool
  | null, null => true
  | text s, text t => s == t
  | bool a, bool b => a == b
  | bool a, int j => (a.toNat : Int) == j
  | int i, bool b => i == (b.toNat : Int)
  | int i, int j => i == j
  | bool a, float y => y.compareInt? a.toNat == some .eq
  | float x, bool b => x.compareInt? b.toNat == some .eq
  | int i, float y => y.compareInt? i == some .eq
  | float x, int j => x.compareInt? j == some .eq
  | float x, float y => x.compare? y == some .eq
  | _, _ => false

mutual

/-- Whether two values are equal: keys as above, lists item by item, maps whatever the order of
their entries. -/
def same : Value → Value → Bool
  | list items, list others => sameItems items others
  | map entries, map others => entries.length == others.length && entriesIn others entries
  | v, w => sameKey v w

/-- Whether two lists of values are equal. -/
def sameItems : List Value → List Value → Bool
  | [], [] => true
  | v :: rest, w :: others => same v w && sameItems rest others
  | _, _ => false

/-- Whether every entry of the second list has an equal one in the first. -/
def entriesIn (others : List (Value × Value)) : List (Value × Value) → Bool
  | [] => true
  | (k, v) :: rest =>
    (match Entries.find? sameKey k others with
      | some w => same v w
      | none => false) && entriesIn others rest

end

/-- The map written by a list of pairs. -/
def mapOf (pairs : List (Value × Value)) : Row := Entries.ofPairs sameKey pairs

/-- The text of a value that is a text. -/
def text? : Value → Option String
  | text s => some s
  | _ => none

/-- The items of a value that can be listed: a list, the characters of a text, the keys of a map. -/
def items? : Value → Option (List Value)
  | list items => some items
  | text s => some (s.toList.map fun c => text (String.singleton c))
  | map entries => some (Entries.keys entries)
  | _ => none

/-- The number of items of a value that can be listed. -/
def size? (v : Value) : Option Nat := v.items?.map List.length

end Value

end BoundSql
