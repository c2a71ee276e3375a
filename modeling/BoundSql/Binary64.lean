/-!
# Double precision numbers as exact data

A finite double is a sign, a mantissa and a power of two, so every question about it is one about
integers: how it compares with an integer, which integer is next to it, which double a quotient
rounds to. Rounding goes to the nearest double, and a tie to the even mantissa. Machine floating
point is not used.
-/

namespace BoundSql

/-- A double: `± mantissa · 2 ^ exponent`, an infinity, or not a number. -/
inductive Binary64 where
  | finite (negative : Bool) (mantissa : Nat) (exponent : Int)
  | infinite (negative : Bool)
  | nan
  deriving DecidableEq, Repr, Inhabited

namespace Binary64

/-- The exponent of the smallest positive double. -/
def minExponent : Int := -1074

/-- The exponent of the largest finite double. -/
def maxExponent : Int := 971

/-- Every mantissa is below this bound. -/
def mantissaBound : Nat := Nat.pow 2 53

/-- The power of two above the fraction bar and the one below it that make up `2 ^ e`. -/
def scale (e : Int) : Nat × Nat := (Nat.pow 2 e.toNat, Nat.pow 2 (-e).toNat)

/-- The quotient rounded to the nearest integer, a tie to the even one. -/
def halfEven (num den : Nat) : Nat :=
  let q := num / den
  let r := num % den
  if 2 * r < den then q else if den < 2 * r then q + 1 else if q % 2 = 0 then q else q + 1

/-- The power of two of the last mantissa bit of the double nearest to a positive quotient. -/
def exponentOf (num den : Nat) : Int :=
  let guess : Int := (num.log2 : Int) - den.log2 - 52
  let (up, down) := scale guess
  let e := if num * down < Nat.pow 2 52 * (den * up) then guess - 1 else guess
  max e minExponent

/-- A finite double, or the infinity of its sign when the exponent is too large. -/
def bounded (negative : Bool) (mantissa : Nat) (exponent : Int) : Binary64 :=
  if maxExponent < exponent then infinite negative else finite negative mantissa exponent

/-- The double nearest to `± num / den`. -/
def ofQuotient (negative : Bool) (num den : Nat) : Binary64 :=
  if num = 0 then finite negative 0 minExponent
  else
    let e := exponentOf num den
    let (up, down) := scale e
    let m := halfEven (num * down) (den * up)
    if m = mantissaBound then bounded negative (Nat.pow 2 52) (e + 1) else bounded negative m e

/-- The double nearest to an integer. -/
def ofInt (i : Int) : Binary64 := ofQuotient (i < 0) i.natAbs 1

/-- Numerator and denominator of the absolute value of `mantissa · 2 ^ exponent`. -/
def fraction (mantissa : Nat) (exponent : Int) : Nat × Nat :=
  let (up, down) := scale exponent
  (mantissa * up, down)

/-- The exact value of a finite double as a numerator and a positive denominator. -/
def ratio? : Binary64 → Option (Int × Nat)
  | finite negative m e =>
    let (num, den) := fraction m e
    some (if negative then -(num : Int) else num, den)
  | _ => none

/-- Order of two doubles; `none` when one is not a number. -/
def compare? : Binary64 → Binary64 → Option Ordering
  | nan, _ | _, nan => none
  | infinite a, infinite b => some (compare b.toNat a.toNat)
  | infinite negative, finite .. => some (if negative then .lt else .gt)
  | finite .., infinite negative => some (if negative then .gt else .lt)
  | finite a m e, finite b n f =>
    let (p, q) := fraction m e
    let (r, s) := fraction n f
    let left : Int := if a then -((p * s : Nat) : Int) else (p * s : Nat)
    let right : Int := if b then -((r * q : Nat) : Int) else (r * q : Nat)
    some (compare left right)

/-- Order of a double and an integer, exactly; `none` when the double is not a number. -/
def compareInt? (x : Binary64) (i : Int) : Option Ordering :=
  match x with
  | nan => none
  | infinite negative => some (if negative then .lt else .gt)
  | finite .. => x.ratio?.map fun (num, den) => compare num (i * den)

/-- Whether the double is zero of either sign. -/
def isZero : Binary64 → Bool
  | finite _ m _ => m == 0
  | _ => false

/-- Whether the double is a finite integer. -/
def isIntegral (x : Binary64) : Bool :=
  match x.ratio? with
  | some (num, den) => num % den == 0
  | none => false

/-- The integer part, rounded toward zero. -/
def truncate? (x : Binary64) : Option Int := x.ratio?.map fun (num, den) => Int.tdiv num den

/-- The least integer that is not below the double. -/
def ceil? (x : Binary64) : Option Int := x.ratio?.map fun (num, den) => -Int.fdiv (-num) den

/-- The double nearest to the product. -/
def mul : Binary64 → Binary64 → Binary64
  | nan, _ | _, nan => nan
  | infinite a, infinite b => infinite (a != b)
  | infinite a, finite b m _ | finite b m _, infinite a => if m = 0 then nan else infinite (a != b)
  | finite a m e, finite b n f =>
    let (num, den) := fraction (m * n) (e + f)
    ofQuotient (a != b) num den

/-- The double nearest to the quotient; a zero divisor gives an infinity. -/
def div : Binary64 → Binary64 → Binary64
  | nan, _ | _, nan => nan
  | infinite _, infinite _ => nan
  | infinite a, finite b _ _ => infinite (a != b)
  | finite a _ _, infinite b => finite (a != b) 0 minExponent
  | finite a m e, finite b n f =>
    if n = 0 then if m = 0 then nan else infinite (a != b)
    else
      let (p, q) := fraction m e
      let (r, s) := fraction n f
      ofQuotient (a != b) (p * s) (q * r)

/-- A tie between two integers goes to the even one. -/
example : halfEven 5 2 = 2 ∧ halfEven 7 2 = 4 ∧ halfEven 8 3 = 3 := by decide

/-- One third, the largest double, and the first integer that is no double. -/
example : ofQuotient false 1 3 = finite false 6004799503160661 (-54) ∧
    ofInt (2 ^ 1024 - 2 ^ 970) = infinite false ∧ ofInt (2 ^ 53 + 1) = ofInt (2 ^ 53) := by
  decide +kernel

end Binary64

end BoundSql
