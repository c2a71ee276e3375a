import BoundSql.Binary64.Decimal
import BoundSql.Text.Numeral
import BoundSql.Text.Quoted
import BoundSql.Value

/-!
# Text of values

A value that stands where text is expected (a table, a column, an operator, a limit) is written as
text inside the statement. A text is written as it is; inside lists and maps it stands in quotes.
An integer is written if it has no more digits than a numeral may have.
-/

namespace BoundSql.Value

mutual

/-- The text of a value, with quotes around texts. -/
def shown : Value → String
  | null => "None"
  | bool b => if b then "True" else "False"
  | int i => toString i
  | float x => x.text
  | text s => Text.quoted s
  | list items => "[" ++ String.intercalate ", " (shownItems items) ++ "]"
  | map entries => "\x7b" ++ String.intercalate ", " (shownEntries entries) ++ "\x7d"

/-- The texts of the items of a list. -/
def shownItems : List Value → List String
  | [] => []
  | v :: rest => shown v :: shownItems rest

/-- The texts of the entries of a map. -/
def shownEntries : List (Value × Value) → List String
  | [] => []
  | (k, v) :: rest => (shown k ++ ": " ++ shown v) :: shownEntries rest

end

/-- The text of a value as part of a statement. -/
def plain : Value → String
  | text s => s
  | v => shown v

@[simp] theorem plain_text (s : String) : plain (text s) = s := rfl

mutual

/-- Whether a value can be written: no integer in it has too many digits. -/
def isWritable : Value → Bool
  | int i => (toString i.natAbs).length ≤ Text.maxDigits
  | list items => areWritable items
  | map entries => entriesAreWritable entries
  | _ => true

/-- Whether all items of a list can be written. -/
def areWritable : List Value → Bool
  | [] => true
  | v :: rest => isWritable v && areWritable rest

/-- Whether all entries of a map can be written. -/
def entriesAreWritable : List (Value × Value) → Bool
  | [] => true
  | (k, v) :: rest => isWritable k && isWritable v && entriesAreWritable rest

end

@[simp] theorem isWritable_text (s : String) : isWritable (text s) = true := rfl

end BoundSql.Value
