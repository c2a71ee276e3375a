import BoundSql.Connection.Direct
import BoundSql.Proofs.Attempt.Failures
import BoundSql.Proofs.Connection.Execute
import BoundSql.Proofs.Desk.Service

/-!
# Connections refuse no query

A query is refused by its builder. What the calls of a connection fail with are errors of the driver
and misuses of the connection itself, so a refusal never comes back from a connection that was
called.
-/

namespace BoundSql

/-- Whether a call failed because a builder refused its query: for its table or its connection, its
kind, its data, or the groups of its conditions. -/
def Failure.isRefusal : Failure → Bool
  | noTable | unknownDialect _ _ | noConnection | unknownKind _ | wrongKind _ _ | noData _
  | unmatchedClose _ | unclosedGroups _ _ => true
  | _ => false

open Attempt

/-- A failure that is no refusal. -/
abbrev Failure.Foreign (failure : Failure) : Prop := failure.isRefusal = false

variable {L α : Type}

/-- No call of a connection fails with a refusal. -/
class Connection.Discreet (L : Type) [Connection L] : Prop where
  prepare : ∀ sql, FailsOnly Failure.Foreign (prepare sql : Attempt L (Statement L))
  bind : ∀ name value,
    FailsOnly Failure.Foreign (bind name value : Attempt (Statement L × L) Unit)
  execute : FailsOnly Failure.Foreign (execute : Attempt (Statement L × L) Unit)
  fetch : FailsOnly Failure.Foreign (fetch : Attempt (Statement L × L) (Option Row))
  fetchAll : FailsOnly Failure.Foreign (fetchAll : Attempt (Statement L × L) (List Row))
  rowCount : FailsOnly Failure.Foreign (rowCount : Attempt (Statement L × L) Value)
  lastInsertId : FailsOnly Failure.Foreign (lastInsertId : Attempt L Value)

/-- A call fails with the error that is planned for it. -/
theorem Wire.failsOnly_call (name : String) (args : List Value) :
    FailsOnly Failure.Foreign (call name args) := by
  intro w failure h
  rw [run_call] at h
  dsimp only at h
  split at h
  · cases h
    rfl
  · cases h

/-- A call that changes the wire fails as the call does. -/
theorem Wire.failsOnly_signal (name : String) (effect : Wire → Wire) :
    FailsOnly Failure.Foreign (signal name effect) :=
  (failsOnly_call name []).bind fun _ => .update effect

/-- A statement fails with what the script says. -/
theorem Wire.failsOnly_perform (opens : Bool) (fault : Option DriverFault) (sql : String) :
    FailsOnly Failure.Foreign (perform opens fault sql) := by
  intro w failure h
  rw [run_perform] at h
  cases fault <;> cases h
  rfl

/-- An adapter fails as its driver does, or as the end of the transaction does. -/
theorem Adapter.failsOnly_execute {σ : Type} (wire : Part σ Wire) (own : Failure → Bool)
    {serve : Attempt σ α} (h : FailsOnly Failure.Foreign serve) :
    FailsOnly Failure.Foreign (execute wire own serve) := by
  refine FailsOnly.state.bind fun s => h.outcome_bind fun outcome hfailure => ?_
  refine FailsOnly.state.bind fun t => ?_
  cases outcome with
  | ok a =>
    dsimp only
    split
    · exact (Wire.failsOnly_signal _ _).within _
    · exact .pure ()
  | error failure =>
    have hfail : Failure.Foreign failure := hfailure failure rfl
    dsimp only
    split
    · exact ((Wire.failsOnly_signal _ _).within _).bind fun _ => .fail hfail
    · exact .fail hfail

/-- A value that cannot be written is no refusal. -/
theorem Value.failsOnly_write {σ : Type} (v : Value) :
    FailsOnly Failure.Foreign (ofExcept v.write : Attempt σ String) := by
  refine .ofExcept fun failure h => ?_
  unfold write at h
  split at h <;> cases h
  rfl

instance : Connection.Discreet Direct where
  prepare sql :=
    ((Wire.failsOnly_call "prepare" [.text sql]).within _).bind fun _ =>
      FailsOnly.state.bind fun _ => (FailsOnly.update _).bind fun _ => .pure _
  bind name value := (Wire.failsOnly_call "bind" [.text name, value]).within _
  execute := ((Wire.failsOnly_call "execute" []).within _).bind fun _ => .update _
  fetch :=
    ((Wire.failsOnly_call "fetch" []).within _).bind fun _ =>
      FailsOnly.state.bind fun _ => (FailsOnly.update _).bind fun _ => .pure _
  fetchAll :=
    ((Wire.failsOnly_call "fetch_all" []).within _).bind fun _ =>
      FailsOnly.state.bind fun _ => (FailsOnly.update _).bind fun _ => .pure _
  rowCount :=
    ((Wire.failsOnly_call "row_count" []).within _).bind fun _ =>
      FailsOnly.state.bind fun _ => .pure _
  lastInsertId :=
    ((Wire.failsOnly_call "last_insert_id" []).within _).bind fun _ =>
      FailsOnly.state.bind fun _ => .pure _

namespace CursorLink

/-- A call of the adapter fails with the errors planned for it. -/
theorem failsOnly_call (name : String) (args : List Value) :
    FailsOnly Failure.Foreign (call name args) :=
  (Wire.failsOnly_call name args).within _

/-- A closed connection is not a refused query. -/
theorem failsOnly_requireOpen : FailsOnly Failure.Foreign requireOpen := by
  refine FailsOnly.state.bind fun link => ?_
  split
  · exact .fail rfl
  · exact .pure ()

/-- A statement that cannot be prepared is not a refused query. -/
theorem failsOnly_prepare (sql : String) : FailsOnly Failure.Foreign (prepare sql) := by
  intro link failure h
  have hcursor : FailsOnly Failure.Foreign (do call "cursor" []; requireOpen) :=
    (failsOnly_call "cursor" []).bind fun _ => failsOnly_requireOpen
  have hfailure := hcursor link
  unfold prepare at h
  dsimp only [Attempt.run] at h hfailure
  split at h
  · cases h
  · split at h <;> cases h <;> rfl
  · rename_i hrun
    rw [hrun] at hfailure
    cases h
    exact hfailure _ rfl

theorem failsOnly_perform (sql : String) : FailsOnly Failure.Foreign (perform sql) :=
  FailsOnly.state.bind fun _ => (FailsOnly.update _).bind fun _ =>
    ((Wire.failsOnly_perform _ _ sql).within _).bind fun _ => .pure _

theorem failsOnly_serve : FailsOnly Failure.Foreign serve := by
  refine FailsOnly.state.bind fun s => ?_
  have hrun : FailsOnly Failure.Foreign (runOnCursor s.1) :=
    (failsOnly_call _ _).bind fun _ => failsOnly_perform s.1.sql
  exact (hrun.within _).bind fun _ => (FailsOnly.update _).bind fun _ => .pure _

end CursorLink

instance : Connection.Discreet CursorLink where
  prepare := CursorLink.failsOnly_prepare
  bind _ _ := .update _
  execute := Adapter.failsOnly_execute _ _ CursorLink.failsOnly_serve
  fetch :=
    ((CursorLink.failsOnly_call "cursor.fetchone" []).within _).bind fun _ =>
      FailsOnly.state.bind fun _ => (FailsOnly.update _).bind fun _ => .pure _
  fetchAll :=
    ((CursorLink.failsOnly_call "cursor.fetchall" []).within _).bind fun _ =>
      FailsOnly.state.bind fun _ => (FailsOnly.update _).bind fun _ => .pure _
  rowCount := FailsOnly.state.bind fun _ => .pure _
  lastInsertId :=
    (CursorLink.failsOnly_call "raw.execute" _).bind fun _ =>
      CursorLink.failsOnly_requireOpen.bind fun _ =>
        (CursorLink.failsOnly_call "cursor.fetchone" []).bind fun _ =>
          FailsOnly.state.bind fun _ => (Value.failsOnly_write _).bind fun _ => .pure _

namespace BufferedLink

/-- A call of the adapter fails with the errors planned for it. -/
theorem failsOnly_call (name : String) (args : List Value) :
    FailsOnly Failure.Foreign (call name args) :=
  (Wire.failsOnly_call name args).within _

theorem failsOnly_prepare (sql : String) : FailsOnly Failure.Foreign (prepare sql) := by
  refine FailsOnly.state.bind fun link => ?_
  split
  · exact .fail rfl
  · exact .pure _

theorem failsOnly_perform (statement : Statement) :
    FailsOnly Failure.Foreign (perform statement) :=
  (failsOnly_call _ _).bind fun _ => FailsOnly.state.bind fun _ =>
    (FailsOnly.update _).bind fun _ =>
      ((Wire.failsOnly_perform _ _ statement.sql).within _).bind fun _ => .pure _

/-- A result that cannot be read is no refusal. -/
theorem failsOnly_keep (outcome : BufferedOutcome) : FailsOnly Failure.Foreign (keep outcome) := by
  have hid : FailsOnly Failure.Foreign
      (ofExcept outcome.insertedIdText : Attempt (Statement × BufferedLink) String) := by
    unfold BufferedOutcome.insertedIdText
    split
    · exact .pure _
    · exact .pure _
    · exact Value.failsOnly_write _
  have hrows : FailsOnly Failure.Foreign
      (ofExcept outcome.namedRows : Attempt (Statement × BufferedLink) (List Row)) := by
    refine .ofExcept fun failure h => ?_
    unfold BufferedOutcome.namedRows at h
    split at h
    · cases h
    · split at h <;> cases h
      rfl
  exact (FailsOnly.update _).bind fun _ => hid.bind fun _ => (FailsOnly.update _).bind fun _ =>
    hrows.bind fun _ => (FailsOnly.update _).bind fun _ => .pure _

theorem failsOnly_serve : FailsOnly Failure.Foreign serve :=
  FailsOnly.state.bind fun s => ((failsOnly_perform s.1).within _).bind failsOnly_keep

/-- What is asked of a result that is not there is no refusal. -/
theorem failsOnly_result (statement : Statement) :
    FailsOnly Failure.Foreign (ofExcept statement.result : Attempt Statement (List Row)) := by
  refine .ofExcept fun failure h => ?_
  unfold Statement.result at h
  split at h <;> cases h
  rfl

theorem failsOnly_fetch : FailsOnly Failure.Foreign fetch := by
  refine FailsOnly.state.bind fun s => (failsOnly_result s).bind fun rows => ?_
  split
  · exact .pure none
  · exact (FailsOnly.update _).bind fun _ => .pure _

end BufferedLink

instance : Connection.Discreet BufferedLink where
  prepare := BufferedLink.failsOnly_prepare
  bind _ _ := .update _
  execute := Adapter.failsOnly_execute _ _ BufferedLink.failsOnly_serve
  fetch := BufferedLink.failsOnly_fetch.within _
  fetchAll :=
    (FailsOnly.state.bind fun s => (BufferedLink.failsOnly_result s).bind fun _ =>
      (FailsOnly.update _).bind fun _ => .pure _).within _
  rowCount :=
    (FailsOnly.state.bind fun s => (BufferedLink.failsOnly_result s).bind fun _ => .pure _).within _
  lastInsertId := FailsOnly.state.bind fun _ => .pure _

end BoundSql
