import BoundSql.Text.Numeral
import BoundSql.Value

/-!
# Checked records

Settings, joins and pages are records whose fields are checked when the record is made. A check
reads the given value leniently: an integer field accepts truth values, integral doubles and
numerals. All faults of one record are reported together, in the order of its fields.
-/

namespace BoundSql.Record

/-- What is wrong with the value given for a field. -/
inductive Fault where
  /-- The value is none of the allowed texts. -/
  | notAllowed (allowed : List String)
  /-- The value is no text. -/
  | notText
  /-- The value is of no type that can stand for an integer. -/
  | notInteger
  /-- The text is no numeral. -/
  | unreadable
  /-- The number has too many digits or lies outside the range of words. -/
  | tooLarge
  /-- The double has a fraction. -/
  | fractional
  /-- The double is infinite or not a number. -/
  | notFinite
  /-- The integer is below one. -/
  | belowOne
  /-- The record has no such field. -/
  | unknownField
  deriving DecidableEq, Repr

/-- A fault with the place of the value inside the record and the value. -/
structure Issue where
  /-- The field, and the steps inside its value: indices and keys. -/
  path : List String
  /-- What is wrong there. -/
  fault : Fault
  /-- The value that was given. -/
  given : Value
  deriving Repr

/-- The place of an issue as one text. -/
def Issue.place (i : Issue) : String := String.intercalate "." i.path

/-- Why a record could not be made. -/
structure Report where
  /-- The name of the record. -/
  record : String
  /-- All its faults, in field order. -/
  issues : List Issue
  deriving Repr

/-- Signed 64-bit words lie below this bound. -/
def wordBound : Nat := Nat.pow 2 63

/-- A double in the range of signed 64-bit words. -/
def fitsWord (x : Binary64) : Bool :=
  x.compareInt? (-wordBound) == some .gt && x.compareInt? wordBound == some .lt

/-- Read an integer field. -/
def integer : Value → Except Fault Int
  | .int i => .ok i
  | .bool b => .ok b.toNat
  | .float x =>
    match x.truncate? with
    | none => .error .notFinite
    | some i =>
      if !x.isIntegral then .error .fractional
      else if fitsWord x then .ok i else .error .tooLarge
  | .text s =>
    match Text.fieldInteger s with
    | .ok i => .ok i
    | .error .unreadable => .error .unreadable
    | .error .tooLong => .error .tooLarge
  | _ => .error .notInteger

/-- Read an integer field that must be at least one. -/
def positive (v : Value) : Except Fault Nat :=
  match integer v with
  | .error fault => .error fault
  | .ok i => if 1 ≤ i then .ok i.toNat else .error .belowOne

/-- Read a text field. -/
def text : Value → Except Fault String
  | .text s => .ok s
  | _ => .error .notText

/-- Read a field that must be one of a few texts. -/
def oneOf {α : Type} (choices : List (String × α)) (v : Value) : Except Fault α :=
  match v.text?.bind fun s => choices.lookup s with
  | some choice => .ok choice
  | none => .error (.notAllowed (choices.map Prod.fst))

/-- The issue, if any, that reading a field met. -/
def issue {α : Type} (field : String) (given : Value) : Except Fault α → List Issue
  | .ok _ => []
  | .error fault => [⟨[field], fault, given⟩]

/-- A positive field holds a number that is at least one. -/
theorem one_le_of_positive {v : Value} {n : Nat} (h : positive v = .ok n) : 1 ≤ n := by
  unfold positive at h
  split at h
  · cases h
  · split at h
    · cases h
      omega
    · cases h

end BoundSql.Record
