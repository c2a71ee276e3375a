import BoundSql.Record
import BoundSql.Value.Text

/-!
# Text of a record's faults

A report names the record and the number of its faults, then gives three lines for each fault:
where it is, what is wrong with which value, and the page that explains it. Long values are cut in
the middle.
-/

namespace BoundSql.Record

/-- The short name of a fault. -/
def Fault.code : Fault → String
  | notAllowed _ => "literal_error"
  | notText => "string_type"
  | notInteger => "int_type"
  | unreadable => "int_parsing"
  | tooLarge => "int_parsing_size"
  | fractional => "int_from_float"
  | notFinite => "finite_number"
  | belowOne => "greater_than_equal"
  | unknownField => "extra_forbidden"

/-- Alternatives as they are read out: commas, and one `or` before the last. -/
def alternatives : List String → String
  | [] => ""
  | [a] => a
  | [a, b] => a ++ " or " ++ b
  | a :: rest => a ++ ", " ++ alternatives rest

/-- What is wrong, in words. -/
def Fault.message : Fault → String
  | notAllowed allowed => "Input should be " ++ alternatives (allowed.map Text.quoted)
  | notText => "Input should be a valid string"
  | notInteger => "Input should be a valid integer"
  | unreadable => "Input should be a valid integer, unable to parse string as an integer"
  | tooLarge => "Unable to parse input string as an integer, exceeded maximum size"
  | fractional => "Input should be a valid integer, got a number with a fractional part"
  | notFinite => "Input should be a finite number"
  | belowOne => "Input should be greater than or equal to 1"
  | unknownField => "Extra inputs are not permitted"

/-- The name of a value's type in reports. -/
def typeName : Value → String
  | .null => "NoneType"
  | .bool _ => "bool"
  | .int _ => "int"
  | .float _ => "float"
  | .text _ => "str"
  | .list _ => "list"
  | .map _ => "dict"

/-- The longest front part of so many bytes. -/
def takeBytes : Nat → List Char → List Char
  | _, [] => []
  | room, c :: rest => if c.utf8Size ≤ room then c :: takeBytes (room - c.utf8Size) rest else []

/-- How values are cut in reports. -/
structure Cut where
  /-- Longer values, in bytes, are cut. -/
  most : Nat
  /-- The bytes kept in front. -/
  front : Nat
  /-- The bytes kept at the end. -/
  back : Nat

/-- Values of more than fifty bytes keep 25 in front and 24 at the end. -/
def cut : Cut := ⟨50, 25, 24⟩

/-- A text with its middle left out when it is long. -/
def shortened (s : String) : String :=
  if s.utf8ByteSize ≤ cut.most then s
  else
    String.ofList (takeBytes cut.front s.toList) ++ "..." ++
      String.ofList (takeBytes cut.back s.toList.reverse).reverse

/-- A step of a path as reports write it: one that holds a point stands between backticks. -/
def stepText (step : String) : String :=
  if step.toList.contains '.' then "`" ++ step ++ "`" else step

/-- The three lines of one fault. The pages that explain faults stand at one place. -/
def Issue.text (pages : String) (i : Issue) : String :=
  String.intercalate "." (i.path.map stepText) ++ "\n  " ++ i.fault.message ++
    " [type=" ++ i.fault.code ++ ", input_value=" ++ shortened i.given.shown ++
    ", input_type=" ++ typeName i.given ++
    "]\n    For further information visit " ++ pages ++ i.fault.code

/-- The whole report, with the place of the pages that explain faults. -/
def Report.text (pages : String) (r : Report) : String :=
  toString r.issues.length ++ " validation error" ++ (if r.issues.length = 1 then "" else "s") ++
    " for " ++ r.record ++ "\n" ++ String.intercalate "\n" (r.issues.map (Issue.text pages))

end BoundSql.Record
