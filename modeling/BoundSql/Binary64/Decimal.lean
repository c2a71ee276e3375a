import BoundSql.Binary64
import BoundSql.Text.Digit
import BoundSql.Text.Numeral

/-!
# Decimal text of doubles

A double is written with the fewest digits that read back as itself, and with those nearest to it
among the ones of that length. Positional notation is used from `10 ^ -4` up to below `10 ^ 16`;
outside that range one digit stands before the point and the exponent has a sign and at least two
digits.
-/

namespace BoundSql.Binary64

/-- Number of decimal digits of a natural number. -/
def digitCount (n : Nat) : Nat := (Nat.toDigits 10 n).length

/-- The power of ten above the fraction bar and the one below it that make up `10 ^ e`. -/
def tenScale (e : Int) : Nat × Nat := (Nat.pow 10 e.toNat, Nat.pow 10 (-e).toNat)

/-- The `k` with `10 ^ (k - 1) ≤ num / den < 10 ^ k`. -/
def pointOf (num den : Nat) : Int :=
  let guess : Int := (digitCount num : Int) - digitCount den
  let (up, down) := tenScale guess
  if num * down < den * up then guess else guess + 1

/-- The double nearest to `digits · 10 ^ e`. -/
def ofDecimal (negative : Bool) (digits : Nat) (e : Int) : Binary64 :=
  let (up, down) := tenScale e
  ofQuotient negative (digits * up) down

/-- Of the two multiples of `10 ^ e` around `num / den`, the nearest one that reads back as the
double. -/
def onGrid? (x : Binary64) (num den : Nat) (e : Int) : Option Nat :=
  let (up, down) := tenScale e
  let low := num * down / (den * up)
  let readsBack := fun d => ofDecimal false d e == x
  match readsBack low, readsBack (low + 1) with
  | false, false => none
  | true, false => some low
  | false, true => some (low + 1)
  | true, true => some (halfEven (num * down) (den * up))

/-- The shortest digits of a positive double, with the power of ten of the last one. -/
def shortest (mantissa : Nat) (exponent : Int) : Nat × Int :=
  let x := finite false mantissa exponent
  let (num, den) := fraction mantissa exponent
  let point := pointOf num den
  let grid := fun (count : Nat) =>
    (onGrid? x num den (point - count)).map fun d => (d, point - count)
  ((List.range 17).findSome? fun i => grid (i + 1)).getD (0, 0)

/-- How the text of a double is laid out. -/
structure Layout where
  /-- The least position of the point that is written without an exponent. -/
  least : Int
  /-- The greatest such position. -/
  greatest : Int
  /-- The least number of digits of an exponent. -/
  exponentDigits : Nat

/-- Positional from `10 ^ -4` to below `10 ^ 16`; exponents have two digits or more. -/
def layout : Layout := ⟨-3, 16, 2⟩

/-- A list of so many zeros. -/
def zeros (n : Nat) : List Char := List.replicate n '0'

/-- Digits with the point after the first `point` of them. -/
def positional (digits : List Char) (point : Int) : List Char :=
  if point ≤ 0 then '0' :: '.' :: (zeros (-point).toNat ++ digits)
  else if (digits.length : Int) ≤ point then
    digits ++ zeros (point.toNat - digits.length) ++ ['.', '0']
  else digits.take point.toNat ++ '.' :: digits.drop point.toNat

/-- Digits with the point after the first one and a power of ten. -/
def scientific (digits : List Char) (power : Int) : List Char :=
  let head := digits.take 1
  let tail := digits.drop 1
  let exponent := Nat.toDigits 10 power.natAbs
  head ++ (if tail.isEmpty then [] else '.' :: tail) ++
    'e' :: (if power < 0 then '-' else '+') ::
      (zeros (layout.exponentDigits - exponent.length) ++ exponent)

/-- Digits without the zeros at the end. -/
def dropTrailingZeros (digits : List Char) : List Char :=
  (digits.reverse.dropWhile (· == '0')).reverse

/-- The text of a double. -/
def text : Binary64 → String
  | nan => "nan"
  | infinite negative => if negative then "-inf" else "inf"
  | finite negative m e =>
    let body :=
      if m = 0 then ['0', '.', '0']
      else
        let (d, power) := shortest m e
        let digits := Nat.toDigits 10 d
        let point := (digits.length : Int) + power
        let short := dropTrailingZeros digits
        if layout.least ≤ point ∧ point ≤ layout.greatest then positional short point
        else scientific short (point - 1)
    String.ofList (if negative then '-' :: body else body)

/-- The number written by digits alone; no digits at all write zero. -/
def plainDigits? (cs : List Char) : Option Nat :=
  (cs.mapM Text.asciiDigit?).map Text.ofDigits

/-- The exponent after the mark `e`. -/
def exponent? : List Char → Option Int
  | [] => some 0
  | _ :: cs =>
    let (negative, ds) := Text.takeSign cs
    if ds.isEmpty then none else (plainDigits? ds).map (Text.signed negative)

/-- Read an unsigned decimal: digits, an optional fraction and an optional exponent. -/
def magnitude? (negative : Bool) (cs : List Char) : Option Binary64 := do
  let mantissa := cs.takeWhile (· != 'e')
  let power ← exponent? (cs.dropWhile (· != 'e'))
  let whole := mantissa.takeWhile (· != '.')
  let part := (mantissa.dropWhile (· != '.')).drop 1
  if whole.isEmpty && part.isEmpty then none
  let digits ← plainDigits? (whole ++ part)
  some (ofDecimal negative digits (power - part.length))

/-- Read the text of a double. -/
def ofText? (s : String) : Option Binary64 :=
  if s = "nan" then some nan
  else
    match s.toList with
    | '-' :: cs => if cs = ['i', 'n', 'f'] then some (infinite true) else magnitude? true cs
    | cs => if cs = ['i', 'n', 'f'] then some (infinite false) else magnitude? false cs

end BoundSql.Binary64
