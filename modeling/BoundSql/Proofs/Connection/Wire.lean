import BoundSql.Connection.Wire

/-!
# The wire after a statement

Running a statement on a driver sends one call; then a transaction may open, and the statement may
take effect. An adapter leaves a transaction that was open before as it is. It ends one that the
driver opened: with a commit after a success, and with a rollback after an error of the driver's own
classes.
-/

namespace BoundSql.Wire

variable {α : Type} {w : Wire} {name sql : String} {args : List Value}

/-- The wire after one more call. -/
def called (name : String) (args : List Value) (w : Wire) : Wire :=
  { w with calls := w.calls ++ [⟨name, args⟩] }

/-- No error is planned for calls of a name. -/
def Unplanned (w : Wire) (name : String) : Prop := ∀ p ∈ w.plan, p.name ≠ name

/-- A call arrives; then it raises the error that is planned for it. -/
theorem run_call (name : String) (args : List Value) (w : Wire) :
    (call name args).run w =
      ((match (w.called name args).plannedFault? name with
        | some fault => .error (.driver fault)
        | none => .ok ()), w.called name args) := by
  have hcall : (call name args).run w =
      (match (w.called name args).plannedFault? name with
        | some fault => .fail (.driver fault)
        | none => pure () : Attempt Wire Unit).run (w.called name args) := rfl
  rw [hcall]
  cases (w.called name args).plannedFault? name <;> rfl

/-- A call for which no error is planned passes. -/
theorem run_call_unplanned (h : w.Unplanned name) :
    (call name args).run w = (.ok (), w.called name args) := by
  have hnone : (w.called name args).plannedFault? name = none := by
    rw [plannedFault?, Option.map_eq_none_iff, List.find?_eq_none]
    intro p hp
    have hname : p.name ≠ name := h p hp
    simp [hname]
  rw [run_call, hnone]

/-- A call that changes the wire does so once it has passed. -/
theorem run_signal (name : String) (effect : Wire → Wire) (w : Wire) :
    (signal name effect).run w =
      match (w.called name []).plannedFault? name with
      | some fault => (.error (.driver fault), w.called name [])
      | none => (.ok (), effect (w.called name [])) := by
  rw [signal, Attempt.run_bind, run_call]
  cases (w.called name []).plannedFault? name <;> rfl

/-- A call that changes the wire does so where no error is planned for it. -/
theorem run_signal_unplanned (effect : Wire → Wire) (h : w.Unplanned name) :
    (signal name effect).run w = (.ok (), effect (w.called name [])) := by
  rw [signal, Attempt.run_bind, run_call_unplanned h]
  rfl

/-- A call that changes the wire is one call, whether or not it passes. -/
theorem calls_signal (name : String) (effect : Wire → Wire)
    (heffect : ∀ w, (effect w).calls = w.calls) (w : Wire) :
    ((signal name effect).run w).2.calls = w.calls ++ [⟨name, []⟩] := by
  rw [run_signal]
  cases (w.called name []).plannedFault? name with
  | some fault => rfl
  | none => exact heffect _

/-- It plans no errors. -/
theorem plan_signal (name : String) (effect : Wire → Wire)
    (heffect : ∀ w, (effect w).plan = w.plan) (w : Wire) :
    ((signal name effect).run w).2.plan = w.plan := by
  rw [run_signal]
  cases (w.called name []).plannedFault? name with
  | some fault => rfl
  | none => exact heffect _

/-- The wire after a driver served a statement: it may have opened a transaction, and the statement
may have taken effect. -/
def served (opens effective : Bool) (sql : String) (w : Wire) : Wire :=
  let w := if opens then w.opened else w
  if effective then w.ran sql else w

/-- A statement takes effect where the script says nothing of an error. -/
theorem run_perform (opens : Bool) (fault : Option DriverFault) (sql : String) (w : Wire) :
    (perform opens fault sql).run w =
      ((match fault with
        | some fault => .error (.driver fault)
        | none => .ok ()), w.served opens fault.isNone sql) := by
  cases opens <;> cases fault <;> rfl

/-- The wire that an adapter leaves behind a statement: `own` tells the driver's own failures, and
`joins` whether a transaction was open before. -/
def settled (own : Failure → Bool) (joins : Bool) (outcome : Except Failure α) (w : Wire) : Wire :=
  if joins || !w.inTransaction then w
  else
    match outcome with
    | .ok _ => (w.called "raw.commit" []).committed
    | .error f => if own f then (w.called "raw.rollback" []).rolledBack else w

@[simp] theorem inTransaction_ran (sql : String) (w : Wire) :
    (w.ran sql).inTransaction = w.inTransaction := by
  unfold ran
  split <;> rfl

@[simp] theorem calls_ran (sql : String) (w : Wire) : (w.ran sql).calls = w.calls := by
  unfold ran
  split <;> rfl

@[simp] theorem plan_ran (sql : String) (w : Wire) : (w.ran sql).plan = w.plan := by
  unfold ran
  split <;> rfl

@[simp] theorem inTransaction_served (opens effective : Bool) (sql : String) (w : Wire) :
    (w.served opens effective sql).inTransaction = (opens || w.inTransaction) := by
  cases opens <;> cases effective <;> simp [served, opened]

@[simp] theorem calls_served (opens effective : Bool) (sql : String) (w : Wire) :
    (w.served opens effective sql).calls = w.calls := by
  cases opens <;> cases effective <;> simp [served, opened]

@[simp] theorem plan_served (opens effective : Bool) (sql : String) (w : Wire) :
    (w.served opens effective sql).plan = w.plan := by
  cases opens <;> cases effective <;> simp [served, opened]

/-- Ending a transaction plans no errors. -/
theorem plan_settled (own : Failure → Bool) (joins : Bool) (outcome : Except Failure α)
    (w : Wire) : (w.settled own joins outcome).plan = w.plan := by
  unfold settled
  split
  · rfl
  · cases outcome with
    | ok a => rfl
    | error f =>
      dsimp only
      split <;> rfl

/-- An adapter touches no transaction that was open before the statement. -/
theorem settled_of_joins (own : Failure → Bool) (outcome : Except Failure α) (w : Wire) :
    w.settled own true outcome = w := rfl

/-- A transaction that was not open before is open behind the statement exactly if the driver opened
it and then failed with an error that is not its own. -/
theorem inTransaction_settled (own : Failure → Bool) (outcome : Except Failure α) (w : Wire) :
    (w.settled own false outcome).inTransaction = true ↔
      w.inTransaction = true ∧ ∃ f, outcome = .error f ∧ own f = false := by
  unfold settled
  cases hopen : w.inTransaction with
  | false => simp [hopen]
  | true =>
    cases outcome with
    | ok a => simp [committed]
    | error f =>
      cases hown : own f with
      | true => simp [hown, rolledBack]
      | false => simp [hown, hopen]

end BoundSql.Wire
