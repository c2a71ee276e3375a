import BoundSql.Proofs.Desk.Service
import BoundSql.Proofs.Desk.Steady
import BoundSql.Proofs.Statement.Issued
import BoundSql.Session.Step

/-!
# Renders of a builder

A call on a builder renders at most one statement, before it looks for the connection. What follows
a render uses the connection and the log, so the binder is left as the render leaves it, also by the
calls that change the query for a while.
-/

namespace BoundSql

open Attempt

namespace BuilderCall

/-- Whether a call puts bindings and counter back to where they were. -/
def rewinds : BuilderCall → Bool
  | countTotal | paginate _ _ | restore _ => true
  | _ => false

/-- What a call that does not rewind renders on a builder, and the builder that the render leaves.
Counts and inserts for an identifier look at the kind of the statement first. -/
def render? (b : Builder) : BuilderCall → Option (Except Failure Compiled × Builder)
  | toSql | compile | get | execute | run => some (Builder.compile.run b)
  | first | value _ =>
    some (Builder.compile.run
      { b with query := { b.query with limit := some (b.query.limit.getD 1) } })
  | count =>
    if b.query.kind = .select then
      some (Builder.compile.run
        { b with query := { b.query with columns := [.text Query.countColumn] } })
    else none
  | compileCount => if b.query.kind = .select then some (Builder.compileCount.run b) else none
  | insertGetId => if b.query.kind = .insert then some (Builder.compile.run b) else none
  | _ => none

/-- The binder that a call leaves, that of its render if there is one. -/
def left (b : Builder) (call : BuilderCall) : Binder :=
  match call.render? b with
  | some r => r.2.binder
  | none => b.binder

/-- Whatever a call renders, some values are bound since the reset, and an answer carries their
bindings. -/
theorem isRender_render? {b : Builder} {call : BuilderCall} {r : Except Failure Compiled × Builder}
    (h : call.render? b = some r) : Builder.IsRender b.binder r := by
  cases call with
  | toSql | compile | get | execute | run =>
    rw [render?, Option.some_inj] at h
    rw [← h]
    exact Builder.isRender_compile b
  | first | value column =>
    rw [render?, Option.some_inj] at h
    rw [← h]
    exact Builder.isRender_compile_query b _
  | count =>
    rw [render?, Option.ite_none_right_eq_some, Option.some_inj] at h
    rw [← h.2]
    exact Builder.isRender_compile_query b _
  | compileCount =>
    rw [render?, Option.ite_none_right_eq_some, Option.some_inj] at h
    rw [← h.2]
    exact Builder.isRender_compileCount h.1
  | insertGetId =>
    rw [render?, Option.ite_none_right_eq_some, Option.some_inj] at h
    rw [← h.2]
    exact Builder.isRender_compile b
  | _ => cases h

/-- Where the kind of the statement does not allow a count, nothing changes. -/
theorem binder_compileCount (b : Builder) :
    (Builder.compileCount.run b).2.binder = left b .compileCount := by
  rw [left, render?]
  by_cases hkind : b.query.kind = .select
  · rw [if_pos hkind]
  · have hrefused : (Builder.requireKind .compileCount).run b =
        (.error (.wrongKind .compileCount b.query.kind), b) := Builder.run_requireKind_of_ne hkind
    rw [if_neg hkind, Builder.compileCount, run_bind, hrefused]

end BuilderCall

namespace Desk

variable {L α : Type}

/-- An attempt that uses the line alone. -/
def OnLine (act : Attempt (Desk L) α) : Prop :=
  ∀ {P : Desk L → Prop}, (∀ d line, P d → P { d with line }) → Keeps P act

/-- What uses the line alone leaves the builder as something before it has left it. -/
theorem builder_bind {β : Type} {act : Attempt (Desk L) β} {next : β → Attempt (Desk L) α}
    {d : Desk L} {b : Builder} (hact : (act.run d).2.builder = b) (hnext : ∀ a, OnLine (next a)) :
    ((act >>= next).run d).2.builder = b :=
  holds_bind (P := fun d' => d'.builder = b) hact fun a d' _ hd' =>
    hnext a (P := fun d' => d'.builder = b) (fun _ _ h => h) d' hd'

/-- A call for another kind of statement leaves the builder as it is. -/
theorem builder_requireKind_bind (call : KindedCall) (next : Unit → Attempt (Desk L) α)
    (d : Desk L) :
    (((Builder.requireKind call).within builderPart >>= next).run d).2.builder =
      if d.builder.query.kind = call.kind then ((next ()).run d).2.builder else d.builder := by
  rw [run_bind, run_within]
  dsimp only [builderPart]
  by_cases hkind : d.builder.query.kind = call.kind
  · rw [if_pos hkind, Builder.run_requireKind_of_eq hkind]
  · rw [if_neg hkind, Builder.run_requireKind_of_ne hkind]

variable [Connection L]

/-- A statement that is run leaves the builder as its render does, whatever the connection does. -/
theorem builder_run (d : Desk L) : (run.run d).2.builder = (Builder.compile.run d.builder).2 :=
  builder_bind rfl fun c _ hline => keeps_runCompiled hline c

/-- Fetching all rows leaves the builder as compiling does. -/
theorem builder_get (d : Desk L) : (get.run d).2.builder = (Builder.compile.run d.builder).2 :=
  builder_bind (builder_run d) fun statement _ hline =>
    (keeps_use hline statement _).bind fun _ => .pure _

theorem builder_execute (d : Desk L) :
    (execute.run d).2.builder = (Builder.compile.run d.builder).2 :=
  builder_bind (builder_run d) fun statement _ hline =>
    (keeps_use hline statement _).bind fun _ => .pure _

/-- A statement that is run for its first row, after its query was changed. -/
theorem builder_firstRow (f : Query → Query) (d : Desk L) :
    (((Attempt.update f).within queryPart >>= fun _ => run >>= fetchFirst).run d).2.builder =
      (Builder.compile.run { d.builder with query := f d.builder.query }).2 := by
  rw [run_bind, run_within, run_update]
  exact builder_bind (builder_run _) fun statement _ hline =>
    (keeps_use hline statement _).bind fun _ => .pure _

/-- The first row is looked for with a bound of one row, where there is none. -/
theorem builder_first (d : Desk L) :
    (first.run d).2.builder =
      (Builder.compile.run { d.builder with
        query := { d.builder.query with limit := some (d.builder.query.limit.getD 1) } }).2 :=
  builder_firstRow _ d

/-- The value of a column is read off the first row. -/
theorem builder_value (column : Value) (d : Desk L) :
    ((value column).run d).2.builder = (first.run d).2.builder :=
  congrArg Desk.builder (run_value column d)

/-- The last identifier is a matter of the connection. -/
theorem builder_lastInsertId (d : Desk L) : (lastInsertId.run d).2.builder = d.builder :=
  keeps_lastInsertId (P := fun d' => d'.builder = d.builder) (fun _ _ h => h) d rfl

/-- A count leaves the binder as its render does. -/
theorem binder_count (d : Desk L) :
    (count.run d).2.builder.binder = BuilderCall.left d.builder .count := by
  rw [BuilderCall.left, BuilderCall.render?, count, builder_requireKind_bind, KindedCall.kind]
  split
  · rw [run_bind, run_state]
    dsimp only
    have hcounting := congrArg Builder.binder <| builder_firstRow
      (fun q => { q with columns := [.text Query.countColumn] }) d
    -- behind the count the columns are put back, which leaves the binder alone
    generalize (Builder.compile.run _).2 = b at hcounting ⊢
    refine holds_bind (P := fun d' : Desk L => d'.builder.binder = b.binder) hcounting ?_
    intro row d' _ hd'
    rw [run_ofExcept]
    exact hd'
  · rfl

/-- An insert for an identifier leaves the binder as its render does. -/
theorem binder_insertGetId (d : Desk L) :
    (insertGetId.run d).2.builder.binder = BuilderCall.left d.builder .insertGetId := by
  rw [BuilderCall.left, BuilderCall.render?, insertGetId, builder_requireKind_bind,
    KindedCall.kind]
  split
  · exact congrArg Builder.binder <|
      builder_bind (builder_run d) fun _ _ hline => keeps_lastInsertId hline
  · rfl

end Desk

end BoundSql
