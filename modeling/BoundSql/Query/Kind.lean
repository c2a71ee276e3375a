import BoundSql.Text.Quoted

/-!
# Statement kinds

A builder renders one of four kinds of statement. Its kind can also be taken away, or set to a
name that is none of the four; rendering refuses both.
-/

namespace BoundSql

/-- What kind of statement a builder renders. -/
inductive Kind where
  | select | insert | update | delete
  /-- No kind at all. -/
  | unset
  /-- A name that is no kind of statement. -/
  | unknown (name : String)
  deriving DecidableEq, Repr

namespace Kind

/-- The name of a kind, if there is one. -/
def name? : Kind → Option String
  | select => some "SELECT"
  | insert => some "INSERT"
  | update => some "UPDATE"
  | delete => some "DELETE"
  | unset => none
  | unknown name => some name

/-- The name of a kind; empty when there is none. -/
def name (k : Kind) : String := k.name?.getD ""

/-- How a kind is written inside error texts. -/
def shown : Kind → String
  | unset => "None"
  | unknown name => Text.quoted name
  | k => "<StatementKind." ++ k.name ++ ": " ++ Text.quoted k.name ++ ">"

end Kind

end BoundSql
