import BoundSql.Attempt

/-!
# Numbers in values

Counts, limits and page numbers are taken from dynamic values. Conversion to an integer cuts
doubles off toward zero and reads numerals. Page sizes stay doubles when a double is given, so
products and quotients with them are computed in doubles.
-/

namespace BoundSql

/-- An integer or a double. -/
inductive Number where
  | int (i : Int)
  | float (x : Binary64)
  deriving DecidableEq, Repr

namespace Value

/-- The integer that a value converts to. -/
def toInteger : Value → Except Failure Int
  | bool b => .ok b.toNat
  | int i => .ok i
  | float x =>
    match x with
    | .nan => .error .malformed
    | x => match x.truncate? with
      | some i => .ok i
      | none => .error .overflow
  | text s =>
    match Text.integer? s with
    | some i => .ok i
    | none => .error .malformed
  | _ => .error .mistyped

/-- The number that a value is; truth values are zero and one. -/
def number? : Value → Option Number
  | bool b => some (.int b.toNat)
  | int i => some (.int i)
  | float x => some (.float x)
  | _ => none

end Value

namespace Number

/-- The value of a number. -/
def value : Number → Value
  | int i => .int i
  | float x => .float x

/-- Whether a number is above an integer; what is not a number is above none. -/
def above (x : Number) (bound : Int) : Bool :=
  match x with
  | int i => bound < i
  | float y => y.compareInt? bound == some .gt

/-- The integer that a number converts to. -/
def toInteger (x : Number) : Except Failure Int := x.value.toInteger

/-- The double nearest to an integer, which must be finite. -/
def toDouble (i : Int) : Except Failure Binary64 :=
  match Binary64.ofInt i with
  | .infinite _ => .error .overflow
  | x => .ok x

/-- The product of an integer and a number. -/
def scaled (i : Int) : Number → Except Failure Number
  | int j => .ok (int (i * j))
  | float x => do return float ((← toDouble i).mul x)

/-- The double nearest to the quotient of an integer and a positive number. -/
def quotient (i : Int) : Number → Except Failure Binary64
  | int j =>
    match Binary64.ofQuotient ((i < 0) != (j < 0)) i.natAbs j.natAbs with
    | .infinite _ => .error .overflow
    | x => .ok x
  | float x => do return (← toDouble i).div x

/-- The least integer not below the quotient as a double. -/
def quotientCeil (i : Int) (x : Number) : Except Failure Int := do
  match (← quotient i x).ceil? with
  | some n => .ok n
  | none => .error .overflow

end Number

end BoundSql
