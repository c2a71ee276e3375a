import BoundSql.Failure
import BoundSql.Text.Capital

/-!
# Conditions

The conditions of a statement are a flat list: tests, each with the connector that joins it to
what stands before it, and markers that open and close groups. Values stay in the tests and are
bound when the list is rendered.
-/

namespace BoundSql

/-- How a condition is joined to what stands before it. -/
inductive Connector where
  | and | or
  deriving DecidableEq, Repr

namespace Connector

/-- The connector as it is written. -/
def text : Connector → String
  | and => "AND"
  | or => "OR"

/-- The connector that a text asks for: `OR` in any case and with blanks around it; else `AND`. -/
def ofText (s : String) : Connector := if Text.capitals (Text.trim s) = or.text then or else and

/-- The connector that the text of a value asks for. -/
def ofValue (v : Value) : Except Failure Connector := return ofText (← v.write)

/-- The connector of an argument that may be omitted; then it is `AND`. -/
def ofArgument : Option Value → Except Failure Connector
  | none => .ok and
  | some v => ofValue v

end Connector

/-- A single condition. -/
inductive Test where
  /-- A column compared with one value. -/
  | compare (column operator value : Value)
  /-- A column tested against several values. -/
  | oneOf (column : Value) (values : List Value) (negated : Value)
  /-- A condition written out. -/
  | raw (sql : Value)
  deriving Repr

namespace Test

/-- The condition that is never true. -/
def alwaysFalse : String := "1=0"

/-- The condition that is always true. -/
def alwaysTrue : String := "1=1"

/-- The values that a test binds, in the order of their placeholders. -/
def values : Test → List Value
  | compare _ _ value => [value]
  | oneOf _ values _ => values
  | raw _ => []

/-- The test with its values replaced by their images. -/
def mapValues (f : Value → Value) : Test → Test
  | compare column operator value => compare column operator (f value)
  | oneOf column values negated => oneOf column (values.map f) negated
  | raw sql => raw sql

/-- A membership test; without values it degrades to a condition that is constant. -/
def membership (column : Value) (values : List Value) (negated : Value) : Test :=
  if values.isEmpty then raw (.text (if negated.truthy then alwaysTrue else alwaysFalse))
  else oneOf column values negated

end Test

/-- A member of a condition list. -/
inductive Token where
  /-- A test. -/
  | test (connector : Connector) (test : Test)
  /-- The start of a group. -/
  | opening (connector : Connector)
  /-- The end of the innermost group. -/
  | closing
  /-- A text that is no condition. -/
  | foreign (text : String)
  deriving Repr

namespace Token

/-- The values that a member binds, in the order of their placeholders. -/
def values : Token → List Value
  | test _ t => t.values
  | _ => []

/-- The member with its values replaced by their images. -/
def mapValues (f : Value → Value) : Token → Token
  | test c t => test c (t.mapValues f)
  | token => token

end Token

/-- Calls that add conditions; an omitted argument is `none`. -/
inductive ConditionCall where
  /-- Compare a column with a value, or the columns of a map with its values. -/
  | compare (column : Value) (operator value connector : Option Value)
  /-- Test a column against several values. -/
  | oneOf (column values : Value) (connector negated : Option Value)
  /-- Test a column for null. -/
  | isNull (column : Value) (connector negated : Option Value)
  /-- Match a column against a pattern. -/
  | like (column pattern : Value) (connector negated : Option Value)
  /-- Add a condition written out. -/
  | raw (sql : Value) (connector : Option Value)
  deriving Repr

namespace ConditionCall

/-- Whether a call asks for negation; it does not when that is omitted. -/
def isNegated (given : Option Value) : Bool := (given.getD (.bool false)).truthy

/-- The test of a column for equality with a value. -/
def equality (column value : Value) : Test := .compare column (.text "=") value

/-- Equalities for the entries of a map, up to a key that cannot be written; only the first takes
the connector of the call. -/
def equalities (connector : Connector) : List (Value × Value) → List Token × Except Failure Unit
  | [] => ([], .ok ())
  | (key, value) :: rest =>
    match key.write with
    | .error failure => ([], .error failure)
    | .ok name =>
      let others := equalities .and rest
      (.test connector (equality (.text name) value) :: others.1, others.2)

/-- A comparison: with one argument the operator is equality, with two the first is the operator. -/
def comparison (column : Value) : Option Value → Option Value → Except Failure Test
  | none, _ => .error (.naming column (.missingOperand column))
  | some value, none => .ok (equality column value)
  | some operator, some value => do
    return .compare column (.text (Text.trim (← operator.write))) value

/-- The test that a call adds, with its connector; the entries of a map are no single test. -/
def test : ConditionCall → Except Failure (Connector × Test)
  | compare column operator value connector => do
    let connector ← Connector.ofArgument connector
    return (connector, ← comparison column operator value)
  | oneOf column values connector negated =>
    match values.items? with
    | none => .error .mistyped
    | some items => do
      return (← Connector.ofArgument connector,
        .membership column items (negated.getD (.bool false)))
  | isNull column connector negated => do
    let check := if isNegated negated then " IS NOT NULL" else " IS NULL"
    let condition := (← column.write) ++ check
    return (← Connector.ofArgument connector, .raw (.text condition))
  | like column pattern connector negated => do
    let operator := if isNegated negated then "NOT LIKE" else "LIKE"
    return (← Connector.ofArgument connector, .compare column (.text operator) pattern)
  | raw sql connector => do return (← Connector.ofArgument connector, .raw sql)

/-- The members that a call adds to the list, and the failure that ends it, if one does. -/
def added : ConditionCall → List Token × Except Failure Unit
  | compare (.map entries) _ _ connector =>
    match Connector.ofArgument connector with
    | .ok connector => equalities connector entries
    | .error failure => ([], .error failure)
  | call =>
    match call.test with
    | .ok (connector, test) => ([.test connector test], .ok ())
    | .error failure => ([], .error failure)

end ConditionCall

end BoundSql
