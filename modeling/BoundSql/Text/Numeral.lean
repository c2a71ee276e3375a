import BoundSql.Text.Blank
import BoundSql.Text.Digit

/-!
# Reading integers

Two grammars of integer text. Call arguments admit the decimal digits of any script, with single
underscores between them. Fields of a record admit ASCII digits only, and are cleaned before they
are read: zeros in front, a fraction of zeros and single underscores are taken out. In both, white
space around the numeral and a sign in front are allowed, and a numeral has a greatest length. A
field tells a numeral that is too long from a text that is no numeral only if there is nothing to
clean. The information separators are no white space here, although they are blank elsewhere.
-/

namespace BoundSql.Text

/-- The digits of a numeral: at least one, with single underscores between them. -/
def digits? (value? : Char → Option Nat) : List Char → Option (List Nat)
  | [] => none
  | [c] => (value? c).map ([·])
  | c :: '_' :: rest => do return (← value? c) :: (← digits? value? rest)
  | c :: d :: rest => do return (← value? c) :: (← digits? value? (d :: rest))

/-- The number written by a list of decimal digits, most significant first. -/
def ofDigits (ds : List Nat) : Nat := ds.foldl (fun n d => 10 * n + d) 0

/-- The largest number of digits that a numeral may have. -/
def maxDigits : Nat := 4300

/-- A sign, if there is one, and the rest: `true` stands for a minus. -/
def takeSign : List Char → Bool × List Char
  | '-' :: rest => (true, rest)
  | '+' :: rest => (false, rest)
  | cs => (false, cs)

/-- The number with the given sign and digits. -/
def signed (negative : Bool) (n : Nat) : Int := if negative then -(n : Int) else n

/-- White space around numerals: the blanks but the information separators. -/
def isNumeralBlank (c : Char) : Bool := isBlank c && !(0x1C ≤ c.toNat && c.toNat ≤ 0x1F)

/-- The integer that a text writes in the decimal digits of any script. -/
def integer? (s : String) : Option Int := do
  let (negative, body) := takeSign (trimChars isNumeralBlank s.toList)
  let ds ← digits? digit? body
  if ds.length ≤ maxDigits then some (signed negative (ofDigits ds)) else none

/-- How the text of a record's integer field can fail to be read. -/
inductive NumeralFault
  /-- The text is no numeral. -/
  | unreadable
  /-- The numeral has too many digits. -/
  | tooLong
  deriving DecidableEq, Repr

/-- What follows the zeros, and the underscores among them, at the start of a numeral: a digit or a
minus. If nothing or a point follows them, the last of them stays. -/
def afterZeros (last : Char) : List Char → Option (List Char)
  | [] => some [last]
  | c :: rest =>
    if c = '0' ∨ c = '_' then afterZeros c rest
    else if c = '.' then some (last :: c :: rest)
    else if c = '-' ∨ (asciiDigit? c).isSome then some (c :: rest)
    else none

/-- A numeral without the zeros in front; it must start with a digit. -/
def dropZeros : List Char → Option (List Char)
  | [] => none
  | c :: rest =>
    if c = '0' then afterZeros c rest
    else if (asciiDigit? c).isSome then some (c :: rest)
    else none

/-- The part before a point and one or more zeros; a text that does not end so is left whole. -/
def dropZeroFraction (cs : List Char) : List Char :=
  match cs.dropWhile (· != '.') with
  | '.' :: '0' :: zeros => if zeros.all (· == '0') then cs.takeWhile (· != '.') else cs
  | _ => cs

/-- Whether each underscore has a character other than an underscore on either side; `before` says
whether such a character stands in front. -/
def underscoresSeparate (before : Bool) : List Char → Bool
  | [] => true
  | ['_'] => false
  | c :: rest =>
    if c = '_' then before && underscoresSeparate false rest else underscoresSeparate true rest

/-- A text without its underscores, if they separate other characters; left whole otherwise. -/
def dropUnderscores (cs : List Char) : List Char :=
  if underscoresSeparate false cs then cs.filter (· != '_') else cs

/-- The integer of ASCII digits, with no zero in front, and perhaps a minus. The length of the
digits with their sign is judged before what follows them. -/
def canonicalInteger (cs : List Char) : Except NumeralFault Int :=
  let negative := cs.head? == some '-'
  let body := if negative then cs.drop 1 else cs
  let ds := (body.takeWhile fun c => (asciiDigit? c).isSome).filterMap asciiDigit?
  match ds with
  | [] => .error .unreadable
  | d :: more =>
    if d = 0 then if body = ['0'] then .ok 0 else .error .unreadable
    else if maxDigits < ds.length + negative.toNat then .error .tooLong
    else if ds.length = body.length then .ok (signed negative (ofDigits (d :: more)))
    else .error .unreadable

/-- The form in which the text of a record field is read: without white space around it, a plus,
zeros in front, a fraction of zeros and separating underscores. -/
def cleanedNumeral (s : String) : Option (List Char) := do
  let (negative, body) := takeSign (trimChars isNumeralBlank s.toList)
  let cleaned := dropUnderscores (dropZeroFraction (← dropZeros body))
  some (if negative then '-' :: cleaned else cleaned)

/-- The integer that the text of a record field writes. The text is read as it stands first: only
there is a numeral reported as too long. -/
def fieldInteger (s : String) : Except NumeralFault Int :=
  match canonicalInteger s.toList with
  | .error .unreadable =>
    match (cleanedNumeral s).map canonicalInteger with
    | some (.ok n) => .ok n
    | _ => .error .unreadable
  | read => read

end BoundSql.Text
