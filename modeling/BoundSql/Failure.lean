import BoundSql.Connection.Fault
import BoundSql.Query.Kind
import BoundSql.Record
import BoundSql.Value.Text

/-!
# Failures

Everything that can go wrong in a call, as its cause. The text of a failure is computed from the
cause in one place. Causes that come down to misusing a value carry no text.
-/

namespace BoundSql

/-- The calls that work for one kind of statement only. -/
inductive KindedCall where
  | compileCount | count | insertGetId
  deriving DecidableEq, Repr

namespace KindedCall

/-- The call as error texts name it. -/
def name : KindedCall → String
  | compileCount => "compile_count()"
  | count => "count()"
  | insertGetId => "insert_get_id()"

/-- The kind of statement the call works for. -/
def kind : KindedCall → Kind
  | compileCount | count => .select
  | insertGetId => .insert

end KindedCall

/-- Why a call failed. -/
inductive Failure where
  /-- A statement was rendered before a table was set. -/
  | noTable
  /-- No dialect is registered under the name. -/
  | unknownDialect (name : String) (registered : List String)
  /-- The builder was made without a connection. -/
  | noConnection
  /-- The kind of the statement is unset or unknown. -/
  | unknownKind (kind : Kind)
  /-- The call works for another kind of statement. -/
  | wrongKind (call : KindedCall) (actual : Kind)
  /-- An insert or update was rendered without data. -/
  | noData (kind : Kind)
  /-- A row was added before any columns were declared. -/
  | noColumns (values : Nat)
  /-- A row has another number of values than there are columns. -/
  | rowLength (columns values : Nat)
  /-- A row lacks a declared column. -/
  | missingColumn (column : Value) (columns : List Value)
  /-- A group is closed that was never opened. -/
  | unmatchedClose (clause : String)
  /-- Groups are still open at the end of a clause. -/
  | unclosedGroups (clause : String) (count : Nat)
  /-- The driver refused to prepare a statement. -/
  | notPrepared (sql : String) (cause : DriverFault)
  /-- A statement was prepared on a closed connection. -/
  | connectionClosed (sql : String)
  /-- A result was asked of a statement that has none. -/
  | notExecuted (sql : String)
  /-- The driver raised an error. -/
  | driver (fault : DriverFault)
  /-- A record could not be made from the values given for its fields. -/
  | invalid (report : Record.Report)
  /-- A condition names a column but no value. -/
  | missingOperand (column : Value)
  /-- A condition list holds something that is no condition. -/
  | foreignToken
  /-- A value is of a type that the call cannot use. -/
  | mistyped
  /-- A value has a usable type but no usable content. -/
  | malformed
  /-- A key is absent. -/
  | absentKey
  /-- An index is outside its list. -/
  | absentIndex
  /-- The object has no such call. -/
  | absentCall
  /-- A number is too large for the type it is converted to. -/
  | overflow
  /-- No statement has been obtained so far. -/
  | noStatement
  deriving Repr

namespace Failure

/-- The text of a failure; the causes that come down to misusing a value have none. -/
def message? : Failure → Option String
  | noTable => some "No table set. Call .table(...) first."
  | unknownDialect name registered =>
    some ("Unsupported dialect target: '" ++ name ++ "'. Registered targets: " ++
      Text.quotedList registered ++ ".")
  | noConnection => some "No connection configured for this builder."
  | unknownKind kind => some ("Unknown statement kind: " ++ kind.shown)
  | wrongKind call actual =>
    some (call.name ++ " requires a " ++ call.kind.name ++ " statement, not " ++ actual.shown ++
      ".")
  | noData kind => some ("No " ++ kind.name.toLower ++ " data provided.")
  | noColumns _ => some "Call insert_columns([col1, col2, ...]) before values([...])."
  | rowLength columns values =>
    some ("VALUES count (" ++ toString values ++ ") does not match INSERT column count (" ++
      toString columns ++ ").")
  | missingColumn column _ =>
    some ("Missing value for column '" ++ column.plain ++ "' in insert_row().")
  | unmatchedClose clause => some ("Group close without a matching open in " ++ clause ++ ".")
  | unclosedGroups clause count =>
    some (toString count ++ " group(s) left open in " ++ clause ++ ".")
  | notPrepared _ cause => some ("Cannot prepare statement: " ++ cause.message)
  | connectionClosed _ => some "Cannot prepare statement: connection is closed."
  | notExecuted _ => some "Statement has not been executed."
  | driver fault => some fault.message
  | missingOperand column => some ("where('" ++ column.plain ++ "') requires a value.")
  | foreignToken => some "Unknown predicate token: str"
  | invalid _ | mistyped | malformed | absentKey | absentIndex | absentCall | overflow
  | noStatement => none

/-- A failure whose text names a column. Where the column cannot be written, neither can the
text. -/
def naming (column : Value) (failure : Failure) : Failure :=
  if column.isWritable then failure else malformed

/-- A sequence has an answer only if both of its halves have one. -/
theorem bind_eq_ok {α β : Type} {e : Except Failure α} {next : α → Except Failure β} {b : β}
    (h : e >>= next = .ok b) : ∃ a, e = .ok a ∧ next a = .ok b := by
  cases e with
  | ok a => exact ⟨a, rfl, h⟩
  | error failure => cases h

/-- Whether a failure is an error of some classes of the driver's. -/
def isFaultOf (classes : FaultClass → Bool) : Failure → Bool
  | driver fault => classes fault.kind
  | _ => false

end Failure

namespace Value

/-- The text of a value as part of a statement, if the value can be written. -/
def write (v : Value) : Except Failure String :=
  if v.isWritable then .ok v.plain else .error .malformed

@[simp] theorem write_text (s : String) : (text s).write = .ok s := rfl

/-- A value that can be written is written. -/
theorem write_of_isWritable {v : Value} (h : v.isWritable = true) : v.write = .ok v.plain :=
  if_pos h

/-- What is written is the text of a value that can be written. -/
theorem write_eq_ok {v : Value} {s : String} :
    v.write = .ok s ↔ v.isWritable = true ∧ v.plain = s := by
  cases h : v.isWritable <;> simp [write, h]

/-- Any other value is malformed. -/
theorem write_eq_error {v : Value} {failure : Failure} (h : v.write = .error failure) :
    failure = .malformed ∧ v.isWritable = false := by
  unfold write at h
  split at h
  · cases h
  · rename_i hunwritable
    cases h
    exact ⟨rfl, Bool.eq_false_iff.mpr hunwritable⟩

end Value

end BoundSql
