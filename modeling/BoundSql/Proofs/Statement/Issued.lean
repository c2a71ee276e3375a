import BoundSql.Proofs.Attempt.Keeps
import BoundSql.Proofs.Statement.Bindings
import BoundSql.Proofs.Statement.Select

/-!
# Names issued by a render

A text that is being rendered reaches the binder through its placeholders only. So wherever a render
ends, it has bound values one after another since its reset, under the names issued next.
-/

namespace BoundSql

open Attempt

/-- A property of binders that every placeholder keeps. -/
def Binder.Running (P : Binder → Prop) : Prop :=
  ∀ d value, Keeps P (Expression.placeholder d value)

variable {P : Binder → Prop} (h : Binder.Running P) (d : Dialect)
include h

namespace Expression

/-- What binding keeps, a test keeps. -/
theorem keeps_body (test : Test) : Keeps P (body d test) := by
  cases test with
  | compare column operator value =>
    refine Keeps.bind (.ofExcept _) fun _ => Keeps.bind (.ofExcept _) fun _ => ?_
    exact (h d value).bind fun _ => .pure _
  | oneOf column values negated =>
    exact (Keeps.forAll (h d) values).bind fun _ => Keeps.bind (.ofExcept _) fun _ => .pure _
  | raw sql => exact .pure sql

/-- Every token keeps it. -/
theorem keeps_step (clause : String) (p : Progress) (token : Token) :
    Keeps P (step d clause p token) := by
  cases token with
  | test connector test => exact (keeps_body h d test).bind fun _ => .ofExcept _
  | opening connector => exact .pure _
  | closing => exact .ofExcept _
  | foreign text => exact .fail _

theorem keeps_steps (clause : String) (p : Progress) (tokens : List Token) :
    Keeps P (steps d clause p tokens) := by
  induction tokens generalizing p with
  | nil => exact .pure p
  | cons token rest ih => exact (keeps_step h d clause p token).bind ih

theorem keeps_renderClause (keyword : String) (tokens : List Token) (guarded : Bool) :
    Keeps P (renderClause d keyword tokens guarded) := by
  have hrender : Keeps P (render d keyword tokens) := by
    refine (keeps_steps h d keyword .start tokens).bind fun p => ?_
    split
    · exact .pure _
    · exact .fail _
  refine hrender.bind fun expression => ?_
  split
  · exact .pure _
  · split
    · exact .pure _
    · exact .pure _

end Expression

namespace Query

variable (q : Query)

theorem keeps_renderSelect (columns : List Value) (withTail : Bool) :
    Keeps P (renderSelect d q columns withTail) := by
  refine Keeps.bind (.ofExcept _) fun _ => Keeps.bind (.ofExcept _) fun _ => ?_
  refine Keeps.bind (.ofExcept _) fun _ => ?_
  refine (Expression.keeps_renderClause h d "WHERE" q.wheres false).bind fun _ => ?_
  refine Keeps.bind (.ofExcept _) fun _ => ?_
  refine (Expression.keeps_renderClause h d "HAVING" q.having false).bind fun _ => ?_
  exact Keeps.bind (.ofExcept _) fun _ => .pure _

theorem keeps_renderCount : Keeps P (renderCount d q) := by
  unfold renderCount
  split
  · exact (keeps_renderSelect h d q q.columns false).bind fun _ => .pure _
  · exact keeps_renderSelect h d q [.text countColumn] false

theorem keeps_renderRows (columns : List Value) (rows : List (List Value)) :
    Keeps P (renderRows d q columns rows) := by
  have hrow : ∀ values, Keeps P (renderRow d values) :=
    fun values => (Keeps.forAll (h d) values).bind fun _ => .pure _
  refine (Keeps.forAll hrow rows).bind fun _ => Keeps.bind (.ofExcept _) fun _ => ?_
  exact Keeps.bind (.ofExcept _) fun _ => .pure _

theorem keeps_renderInsert : Keeps P (renderInsert d q) := by
  refine Keeps.bind (.ofExcept _) fun _ => ?_
  split
  · exact keeps_renderRows h d q _ _
  · exact keeps_renderRows h d q _ _
  · exact .fail _

theorem keeps_renderUpdate : Keeps P (renderUpdate d q) := by
  have hset : ∀ entry, Keeps P (renderSet d entry) :=
    fun entry => Keeps.bind (.ofExcept _) fun _ => (h d entry.2).bind fun _ => .pure _
  refine Keeps.bind (.ofExcept _) fun _ => ?_
  split
  · exact .fail _
  · refine (Keeps.forAll hset q.update).bind fun _ => ?_
    refine (Expression.keeps_renderClause h d "WHERE" q.wheres true).bind fun _ => ?_
    exact Keeps.bind (.ofExcept _) fun _ => .pure _

theorem keeps_renderDelete : Keeps P (renderDelete d q) := by
  refine Keeps.bind (.ofExcept _) fun _ => ?_
  refine (Expression.keeps_renderClause h d "WHERE" q.wheres true).bind fun _ => ?_
  exact Keeps.bind (.ofExcept _) fun _ => .pure _

/-- What binding keeps, every statement keeps. -/
theorem keeps_render : Keeps P (q.render d) := by
  refine Keeps.bind (.ofExcept _) fun _ => ?_
  split
  · exact keeps_renderSelect h d q q.columns true
  · exact keeps_renderInsert h d q
  · exact keeps_renderUpdate h d q
  · exact keeps_renderDelete h d q
  · exact .fail _

end Query

omit h

/-- To have bound values one after another since a binder stood somewhere. -/
theorem Binder.running_bindAll (b : Binder) : Running fun b' => ∃ vs, b' = b.bindAll vs := by
  rintro d value b' ⟨vs, rfl⟩
  exact ⟨vs ++ [value], (b.bindAll_append vs [value]).symm⟩

namespace Builder

/-- What a render from a binder came to, with the builder that it left. -/
structure IsRender (before : Binder) (r : Except Failure Compiled × Builder) : Prop where
  /-- Since a reset some values were bound, and nothing else happened to the binder. -/
  bound : ∃ vs, r.2.binder = before.reset.bindAll vs
  /-- An answer carries the bindings that were left. -/
  params : ∀ c, r.1 = .ok c → c.params = r.2.binder.params

/-- A render binds some values since its reset, wherever it ends. -/
theorem isRender_renderWith {text : Attempt Binder String}
    (htext : ∀ {P : Binder → Prop}, Binder.Running P → Keeps P text) (b : Builder) :
    IsRender b.binder ((renderWith text).run b) := by
  have hbound := htext (Binder.running_bindAll b.binder.reset) b.binder.reset ⟨[], rfl⟩
  rw [run_renderWith]
  rcases hrun : text.run b.binder.reset with ⟨outcome, binder⟩
  rw [hrun] at hbound
  refine ⟨?_, fun c hc => ?_⟩
  · cases outcome with
    | ok sql => exact hbound
    | error failure => exact hbound
  · cases outcome with
    | ok sql =>
      cases hc
      rfl
    | error failure => cases hc

/-- Compiling is a render. -/
theorem isRender_compile (b : Builder) : IsRender b.binder (compile.run b) :=
  isRender_renderWith (fun h => Query.keeps_render h b.dialect b.query) b

/-- The same of a builder with another query. -/
theorem isRender_compile_query (b : Builder) (query : Query) :
    IsRender b.binder (compile.run { b with query }) := isRender_compile { b with query }

theorem isRender_compileCount {b : Builder} (h : b.query.kind = .select) :
    IsRender b.binder (compileCount.run b) := by
  have hrun : compileCount.run b = (renderWith (b.query.renderCount b.dialect)).run b := by
    rw [compileCount, run_bind, run_requireKind_of_eq h]
    rfl
  rw [hrun]
  exact isRender_renderWith (fun h => Query.keeps_renderCount h b.dialect b.query) b

end Builder

end BoundSql
