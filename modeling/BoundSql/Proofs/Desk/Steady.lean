import BoundSql.Page
import BoundSql.Proofs.Attempt.Keeps

/-!
# What running statements keeps

Calls that render and run statements use the connection, bind values, and change for a while the
columns and bounds of the query. A property of desks that overlooks these parts of the builder, and
that the single uses of the connection keep, is kept by every such call, whether it answers or
fails.
-/

namespace BoundSql

open Attempt

namespace Builder

/-- A failed or passed check of the kind leaves the builder as it is. -/
theorem run_requireKind (call : KindedCall) (b : Builder) : ((requireKind call).run b).2 = b := by
  have hsame : Keeps (· = b) (requireKind call) := by
    refine Keeps.bind .state fun _ => ?_
    split
    · exact .pure _
    · exact .fail _
  exact hsame b rfl

/-- Rendering changes nothing of a builder but its binder. -/
theorem run_renderWith_same (text : Attempt Binder String) (b : Builder) :
    ((renderWith text).run b).2 = { b with binder := ((renderWith text).run b).2.binder } := by
  have hsame : Keeps (fun b' => b' = { b with binder := b'.binder }) (renderWith text) := by
    refine Keeps.bind (.update ?_) fun _ => Keeps.bind ?_ fun _ =>
      Keeps.bind .state fun _ => .pure _
    · intro b' hb'
      rw [hb']
    · refine .within_other ?_ text
      intro b' binder hb'
      rw [hb']
      rfl
  exact hsame b rfl

/-- Compiling changes the binder only. -/
theorem run_compile_same (b : Builder) :
    (compile.run b).2 = { b with binder := (compile.run b).2.binder } :=
  run_renderWith_same _ b

theorem run_compileCount_same (b : Builder) :
    (compileCount.run b).2 = { b with binder := (compileCount.run b).2.binder } := by
  have hkind := run_requireKind .compileCount b
  rw [compileCount, run_bind]
  rcases hrun : (requireKind .compileCount).run b with ⟨outcome, b'⟩
  rw [hrun] at hkind
  subst hkind
  cases outcome with
  | ok _ => exact run_renderWith_same _ _
  | error failure => rfl

end Builder

namespace Desk

variable {L : Type}

/-- Checking the kind of a query changes nothing. -/
theorem keeps_requireKind {P : Desk L → Prop} (call : KindedCall) :
    Keeps P ((Builder.requireKind call).within builderPart) := by
  intro d hd
  rw [run_within, Builder.run_requireKind]
  exact hd

section Binder

variable {P : Desk L → Prop}
  (hbinder : ∀ d binder, P d → P { d with builder := { d.builder with binder } })
include hbinder

/-- Of a desk, rendering changes the binder alone. -/
theorem keeps_compile : Keeps P (Builder.compile.within builderPart) := by
  intro d hd
  rw [run_within, Builder.run_compile_same]
  exact hbinder d _ hd

theorem keeps_compileCount : Keeps P (Builder.compileCount.within builderPart) := by
  intro d hd
  rw [run_within, Builder.run_compileCount_same]
  exact hbinder d _ hd

end Binder

variable [Connection L]

/-- A property of desks that everything keeps of which the calls that run statements consist. -/
structure Steady (P : Desk L → Prop) : Prop where
  /-- It is kept when the statement is rendered and runs, -/
  run : Keeps P run
  /-- when the count is rendered and runs, -/
  runCount : Keeps P (Builder.compileCount.within builderPart >>= runCompiled)
  /-- when a row is taken, -/
  fetch : ∀ statement, Keeps P (use statement Connection.fetch)
  /-- when all rows are taken, -/
  fetchAll : ∀ statement, Keeps P (use statement Connection.fetchAll)
  /-- when the changed rows are counted, -/
  rowCount : ∀ statement, Keeps P (use statement Connection.rowCount)
  /-- and when the last identifier is asked for. -/
  lastInsertId : Keeps P lastInsertId

namespace Steady

variable {P : Desk L → Prop}

/-- A steady property is kept while all rows are fetched. -/
theorem get (h : Steady P) : Keeps P get :=
  h.run.bind fun statement => (h.fetchAll statement).bind fun _ => .pure _

theorem fetchFirst (h : Steady P) (statement : Connection.Statement L) :
    Keeps P (fetchFirst statement) := (h.fetch statement).bind fun _ => .pure _

/-- The count runs for its first row. -/
theorem countRow (h : Steady P) :
    Keeps P (Builder.compileCount.within builderPart >>= fun c =>
      runCompiled c >>= Desk.fetchFirst) := by
  rw [← bind_assoc]
  exact h.runCount.bind h.fetchFirst

theorem execute (h : Steady P) : Keeps P execute :=
  h.run.bind fun statement => (h.rowCount statement).bind fun _ => .pure _

theorem insertGetId (h : Steady P) : Keeps P insertGetId :=
  (keeps_requireKind _).bind fun _ => h.run.bind fun _ => h.lastInsertId

end Steady

/-- A rendered statement is prepared, its values are bound, it runs, and is reported. -/
theorem keeps_runCompiled_of {P : Desk L → Prop} {c : Compiled}
    (hprepare : Keeps P
      ((Line.ask .noConnection (Connection.prepare (L := L) c.sql)).within linePart))
    (hbind : ∀ statement name value, Keeps P (use statement (Connection.bind name value)))
    (hexecute : ∀ statement, Keeps P (use statement Connection.execute))
    (hreport : ∀ e, Keeps P ((Line.report e).within linePart)) : Keeps P (runCompiled c) := by
  have hbinds : ∀ (bindings : Bindings) (statement : Connection.Statement L),
      Keeps P (bindAll statement bindings) := by
    intro bindings
    induction bindings with
    | nil => exact fun statement => .pure statement
    | cons binding rest ih =>
      exact fun statement => (hbind statement _ _).bind fun answer => ih answer.2
  refine hprepare.bind fun statement => (hbinds c.params statement).bind fun statement => ?_
  refine (hexecute statement).bind fun _ => Keeps.bind .state fun _ => ?_
  exact (hreport _).bind fun _ => .pure _

section Line

variable {P : Desk L → Prop} (hline : ∀ d line, P d → P { d with line })
include hline

/-- A property of the builder is kept while a statement is used. -/
theorem keeps_use {α : Type} (statement : Connection.Statement L)
    (act : Attempt (Connection.Statement L × L) α) : Keeps P (use statement act) :=
  .within_other hline _

/-- A rendered statement runs on the line alone. -/
theorem keeps_runCompiled (c : Compiled) : Keeps P (runCompiled c) :=
  keeps_runCompiled_of (.within_other hline _) (fun statement _ _ => keeps_use hline statement _)
    (fun statement => keeps_use hline statement _) fun _ => .within_other hline _

theorem keeps_lastInsertId : Keeps P lastInsertId := .within_other hline _

end Line

/-- Every property that overlooks the line and the binder is steady. -/
theorem steady_of_parts {P : Desk L → Prop} (hline : ∀ d line, P d → P { d with line })
    (hbinder : ∀ d binder, P d → P { d with builder := { d.builder with binder } }) :
    Steady P where
  run := (keeps_compile hbinder).bind (keeps_runCompiled hline)
  runCount := (keeps_compileCount hbinder).bind (keeps_runCompiled hline)
  fetch statement := keeps_use hline statement _
  fetchAll statement := keeps_use hline statement _
  rowCount statement := keeps_use hline statement _
  lastInsertId := keeps_lastInsertId hline

/-- Every property of the builder that overlooks its binder is steady. -/
theorem steady_of_builder {Q : Builder → Prop} (h : ∀ b binder, Q b → Q { b with binder }) :
    Steady fun d : Desk L => Q d.builder :=
  steady_of_parts (fun _ _ hd => hd) fun d binder hd => h d.builder binder hd

/-- The value of a column is read off the first row, which changes nothing more. -/
theorem run_value (column : Value) (d : Desk L) : ((value column).run d).2 = (first.run d).2 := by
  rw [value, run_bind]
  rcases first.run d with ⟨failure | row, d'⟩
  · rfl
  · cases row with
    | none => rfl
    | some row =>
      dsimp only
      split <;> rfl

/-- The value of a column is read off the first row. -/
theorem keeps_value {P : Desk L → Prop} (hfirst : Keeps P first) (column : Value) :
    Keeps P (value column) := by
  intro d hd
  rw [run_value]
  exact hfirst d hd

/-- A steady property that also overlooks what a snapshot holds of the builder. -/
structure Overlooks (P : Desk L → Prop) : Prop extends Steady P where
  /-- It does not tell two builders apart that differ in what a snapshot holds. -/
  builder : ∀ d b, b.restore d.builder.snapshot = d.builder → P d → P { d with builder := b }
  /-- It is kept when a total is reported. -/
  counted : ∀ grouped total,
    Keeps P ((Line.report (.paginateCount grouped total)).within linePart)

namespace Overlooks

variable {P : Desk L → Prop}

/-- A change of what a snapshot holds. -/
theorem update (h : Overlooks P) {f : Query → Query}
    (hf : ∀ b : Builder, { b with query := f b.query }.restore b.snapshot = b) :
    Keeps P ((Attempt.update f).within queryPart) :=
  fun d hd => h.builder d _ (hf d.builder) hd

/-- What is put back was overlooked. -/
theorem preserving (h : Overlooks P) {α : Type} {act : Attempt (Desk L) α} (hact : Keeps P act) :
    Keeps P (Attempt.preserving builderPart act) :=
  fun d hd => h.builder _ _ rfl (hact d hd)

/-- Such a property is kept while the first row is fetched. -/
theorem first (h : Overlooks P) : Keeps P first :=
  (h.update fun _ => rfl).bind fun _ => h.run.bind h.fetchFirst

theorem value (h : Overlooks P) (column : Value) : Keeps P (value column) :=
  keeps_value h.first column

theorem count (h : Overlooks P) : Keeps P count := by
  refine (keeps_requireKind _).bind fun _ => Keeps.bind .state fun d => ?_
  refine Keeps.bind (.ensuring ?_ ?_) fun row => .ofExcept _
  · exact fun d hd => h.builder d _ rfl hd
  · exact (h.update fun _ => rfl).bind fun _ => h.run.bind h.fetchFirst

theorem countTotal (h : Overlooks P) : Keeps P countTotal := by
  refine Keeps.bind (h.preserving h.countRow) fun row => ?_
  refine Keeps.bind (.ofExcept _) fun total => Keeps.bind .state fun d => ?_
  exact (h.counted _ _).bind fun _ => .pure _

/-- A bound of the select is overlooked. -/
theorem bound (h : Overlooks P) {read : Except Failure Nat} {f : Nat → Query → Query}
    (hf : ∀ n (b : Builder), { b with query := f n b.query }.restore b.snapshot = b) :
    Keeps P ((Attempt.ofExcept read >>= fun n => Attempt.update (f n)).within queryPart) := by
  cases read with
  | ok n => exact h.update (hf n)
  | error failure => exact fun d hd => hd

theorem window (h : Overlooks P) (size : Number) (before : Int) :
    Keeps P (window size before) := by
  have hlimit : Keeps P ((Clause.limit size.value).apply.within queryPart) :=
    h.bound fun _ _ => rfl
  have hoffset : ∀ start : Number,
      Keeps P ((Clause.offset start.value).apply.within queryPart) :=
    fun _ => h.bound fun _ _ => rfl
  refine hlimit.bind fun _ => Keeps.bind (.ofExcept _) fun start => ?_
  exact (hoffset start).bind fun _ => h.get

theorem paginate (h : Overlooks P) (settings : Settings) (page perPage : Option Value) :
    Keeps P (paginate settings page perPage) := by
  refine Keeps.bind (.ofExcept _) fun page => Keeps.bind (.ofExcept _) fun size => ?_
  refine Keeps.bind (h.preserving ?_) fun answer => ?_
  · refine h.countTotal.bind fun total => ?_
    exact (h.window _ _).bind fun rows => .pure _
  · exact Keeps.bind (.ofExcept _) fun pageCount => .ofExcept _

end Overlooks

/-- Every property that overlooks the line and what a snapshot holds is kept by all calls that run
statements. -/
theorem overlooks_of_parts {P : Desk L → Prop} (hline : ∀ d line, P d → P { d with line })
    (hbuilder : ∀ d b, b.restore d.builder.snapshot = d.builder → P d →
      P { d with builder := b }) : Overlooks P where
  toSteady := steady_of_parts hline fun d binder hd =>
    hbuilder d { d.builder with binder } rfl hd
  builder := hbuilder
  counted _ _ := .within_other hline _

/-- Every property of the builder that overlooks what a snapshot holds is kept by all calls that run
statements. -/
theorem overlooks_of_builder {Q : Builder → Prop}
    (h : ∀ b b' : Builder, b'.restore b.snapshot = b → Q b → Q b') :
    Overlooks fun d : Desk L => Q d.builder :=
  overlooks_of_parts (fun _ _ hd => hd) fun d b hb hd => h d.builder b hb hd

end Desk

end BoundSql
