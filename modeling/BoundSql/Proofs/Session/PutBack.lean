import BoundSql.Connection.Direct
import BoundSql.Proofs.Desk.Steady
import BoundSql.Proofs.Session.Run

/-!
# Builders that are put back

Counting and paging change a builder while they run and leave it as it was, wherever they fail: what
they change is what a snapshot holds, and that is put back. Whatever the steps inside a call that
preserves its builder do, the builder ends with what the snapshot holds from before and everything
else from the steps.
-/

namespace BoundSql

open Attempt

/-- A scope that preserves a builder ends as its body does, in the state that the body leaves, but
for the builder that it puts back. -/
theorem Attempt.run_preserving {σ α : Type} (part : Part σ Builder) (act : Attempt σ α) (s : σ) :
    (preserving part act).run s =
      ((act.run s).1, part.put ((part.get (act.run s).2).restore (part.get s).snapshot)
        (act.run s).2) := rfl

/-- What became of a builder that was put back: what a snapshot holds is as it was before, and
everything else is as the calls in between left it. -/
structure Builder.PutBack (before left after : Builder) : Prop where
  params : after.binder.params = before.binder.params
  counter : after.binder.counter = before.binder.counter
  columns : after.query.columns = before.query.columns
  orderBy : after.query.orderBy = before.query.orderBy
  limit : after.query.limit = before.query.limit
  offset : after.query.offset = before.query.offset
  table : after.query.table = left.query.table
  label : after.query.label = left.query.label
  kind : after.query.kind = left.query.kind
  joins : after.query.joins = left.query.joins
  wheres : after.query.wheres = left.query.wheres
  having : after.query.having = left.query.having
  groupBy : after.query.groupBy = left.query.groupBy
  insert : after.query.insert = left.query.insert
  update : after.query.update = left.query.update
  dialect : after.dialect = left.dialect

/-- Restoring a snapshot puts back what the snapshot holds, and nothing else. -/
theorem Builder.putBack_restore (before left : Builder) :
    PutBack before left (left.restore before.snapshot) := by
  constructor <;> rfl

namespace Desk

variable {L : Type} [Connection L]

/-- Desks whose builder differs from a given one in nothing but what a snapshot holds. -/
theorem overlooks_restored (b : Builder) :
    Overlooks fun d : Desk L => d.builder.restore b.snapshot = b := by
  refine overlooks_of_builder (Q := fun b' => b'.restore b.snapshot = b) fun b' b'' hb' h => ?_
  rw [← h, ← hb']
  rfl

/-- A scope in which nothing but what a snapshot holds is changed leaves the builder as it was. -/
theorem builder_preserving {α : Type} {act : Attempt (Desk L) α}
    (hact : ∀ {P : Desk L → Prop}, Overlooks P → Keeps P act) (d : Desk L) :
    ((Attempt.preserving builderPart act).run d).2.builder = d.builder := by
  have hkept := hact (overlooks_restored (L := L) d.builder)
  exact hkept d (Builder.restore_snapshot d.builder)

/-- The total of a select is counted without a trace in its builder. -/
theorem builder_countTotal (d : Desk L) : (countTotal.run d).2.builder = d.builder := by
  refine holds_bind (P := fun d' : Desk L => d'.builder = d.builder) ?_ fun row t _ ht => ?_
  · exact builder_preserving (fun h => h.countRow) d
  · have hrest : Keeps (fun d' : Desk L => d'.builder = d.builder)
        (.ofExcept (countOf row) >>= fun total => .state >>= fun d' =>
          (Line.report (.paginateCount d'.builder.query.isGrouped total)).within linePart >>=
            fun _ => pure total) := by
      refine Keeps.bind (.ofExcept _) fun total => Keeps.bind .state fun d' => ?_
      exact Keeps.bind (.within_other (fun _ _ h => h) _) fun _ => .pure _
    exact hrest t ht

/-- A page is fetched without a trace in the builder. -/
theorem builder_paginate (settings : Settings) (page perPage : Option Value) (d : Desk L) :
    ((paginate settings page perPage).run d).2.builder = d.builder := by
  have hscope : ∀ page size, Keeps (fun d' : Desk L => d'.builder = d.builder)
      (Attempt.preserving builderPart do
        let total ← countTotal
        let rows ← window size (page - 1)
        pure (total, rows)) := by
    intro page size d' hd'
    rw [← hd']
    exact builder_preserving (fun h => h.countTotal.bind fun total =>
      (h.window _ _).bind fun rows => .pure _) d'
  have hkept : Keeps (fun d' : Desk L => d'.builder = d.builder)
      (paginate settings page perPage) := by
    refine Keeps.bind (.ofExcept _) fun page => Keeps.bind (.ofExcept _) fun size => ?_
    refine (hscope _ _).bind fun answer => ?_
    exact Keeps.bind (.ofExcept _) fun pageCount => .ofExcept _
  exact hkept d rfl

/-- A count puts the columns of the select back, the only part of the query that it changes. -/
theorem query_count (d : Desk L) : (count.run d).2.builder.query = d.builder.query := by
  have hkind : Keeps (fun d' : Desk L => d'.builder.query = d.builder.query)
      ((Builder.requireKind .count).within builderPart) := keeps_requireKind .count
  have hothers : Steady fun d' : Desk L =>
      { d'.builder.query with columns := d.builder.query.columns } = d.builder.query :=
    steady_of_builder (Q := fun b =>
      { b.query with columns := d.builder.query.columns } = d.builder.query) fun _ _ h => h
  refine hkind.bind (fun _ d' hd' => ?_) d rfl
  -- the columns that are put back are those that are read here, before they are replaced
  have hcolumns : d'.builder.query.columns = d.builder.query.columns := congrArg Query.columns hd'
  have hensured : ∀ {act : Attempt (Desk L) (Option Row)},
      Keeps (fun d' : Desk L =>
        { d'.builder.query with columns := d.builder.query.columns } = d.builder.query) act →
      Keeps (fun d' : Desk L => d'.builder.query = d.builder.query)
        (act.ensuring fun d'' : Desk L =>
          queryPart.put { d''.builder.query with columns := d'.builder.query.columns } d'') := by
    intro act hact d'' hd''
    rw [run_ensuring, hcolumns]
    have hback : { d''.builder.query with columns := d.builder.query.columns } =
        d.builder.query := by rw [hd'']
    exact hact d'' hback
  have hcounting : Keeps (fun d' : Desk L =>
      { d'.builder.query with columns := d.builder.query.columns } = d.builder.query)
      ((Attempt.update fun q => { q with columns := [.text Query.countColumn] }).within
        queryPart >>= fun _ => run >>= fetchFirst) :=
    Keeps.bind (fun _ h => h) fun _ => hothers.run.bind hothers.fetchFirst
  exact (hensured hcounting).bind (fun row => .ofExcept _) d' hd'

end Desk

namespace Step

variable {L : Type} [Connection L]

/-- A call that preserves its builder ends as the steps inside it do, in the session that they
leave, but for the builder that it puts back. -/
theorem run_preserve {site : Site} {here : Receiver} {s : Session L} {n : Nat}
    (hn : (Session.needBuilder site here).run s = (.ok n, s)) (body : List Step) :
    let left := runAll body (.builder n) s
    let r := run (.block site .preserve body) here s
    r.1.outcome = (match left.2.1 with
      | none => .ok (.number body.length)
      | some failure => .error failure) ∧
    r.2 = (Session.builderPart n).put
      ((left.2.2.builder n).restore (s.builder n).snapshot) left.2.2 := by
  have hneed : ((Session.needBuilder site here).within Frame.sessionPart).run
      (⟨s, none⟩ : Frame L) = (.ok n, ⟨s, none⟩) := by
    rw [run_within]
    exact congrArg (fun r => (r.1, (⟨r.2, none⟩ : Frame L))) hn
  have hinside : (inside body (.builder n)).run ⟨s, none⟩ =
      ((match (runAll body (.builder n) s).2.1 with
        | none => .ok ()
        | some failure => .error failure),
        (⟨(runAll body (.builder n) s).2.2, some (runAll body (.builder n) s).1⟩ : Frame L)) := rfl
  dsimp only
  rw [run_block]
  dsimp only [Block.around, Entry.outcome]
  rw [run_bind, hneed]
  dsimp only
  rw [run_bind, run_preserving, hinside]
  cases (runAll body (.builder n) s).2.1 with
  | none => exact ⟨rfl, rfl⟩
  | some failure => exact ⟨rfl, rfl⟩

end Step

namespace Builder

/-- Pages and totals leave the builder as it was and counts leave its query so, whatever the
connection does and wherever they fail. A call that preserves its builder puts it back, whatever the
steps inside it do, changes nothing else, and fails as they do. -/
theorem reads_putBack {L : Type} [Connection L] :
    (∀ settings page perPage (d : Desk L),
      ((Desk.paginate settings page perPage).run d).2.builder = d.builder) ∧
    (∀ d : Desk L, (Desk.countTotal.run d).2.builder = d.builder) ∧
    (∀ d : Desk L, (Desk.count.run d).2.builder.query = d.builder.query) ∧
    ∀ (site : Site) (here : Receiver) (s : Session L) (n : Nat) (body : List Step),
      (Session.needBuilder site here).run s = (.ok n, s) →
        let left := Step.runAll body (.builder n) s
        let r := Step.run (.block site .preserve body) here s
        r.1.outcome = (match left.2.1 with
          | none => .ok (.number body.length)
          | some failure => .error failure) ∧
        ∃ after, PutBack (s.builder n) (left.2.2.builder n) after ∧
          r.2 = (Session.builderPart n).put after left.2.2 := by
  refine ⟨Desk.builder_paginate, Desk.builder_countTotal, Desk.query_count, ?_⟩
  intro site here s n body hn
  obtain ⟨houtcome, hsession⟩ := Step.run_preserve hn body
  exact ⟨houtcome, _, putBack_restore (s.builder n) _, hsession⟩

/-- Steps that bound the select, add a condition, ask in vain for a page and then fail: the bound is
gone, the condition stays and the failure is theirs. -/
theorem reads_putBack_failing :
    let here : Site := ⟨none, false, false⟩
    let caught : Site := ⟨none, true, false⟩
    let body : List Step :=
      [.plain here (.clause (.limit (.int 5))),
        .plain here (.clause (.condition (.raw (.text "a") none))),
        .plain caught (.builder (.paginate none none)), .plain here (.raise "stop")]
    let s : Session Direct := Session.start .standard (.ofTarget .sqlite) none .nothing false
    let left := Step.runAll body (.builder 0) s
    let r := Step.run (.block here .preserve body) (.builder 0) s
    (Session.needBuilder here (.builder 0)).run s = (.ok 0, s) ∧
      r.1.outcome = .error (.driver ⟨.foreign, "stop"⟩) ∧
      ∃ after, PutBack (s.builder 0) (left.2.2.builder 0) after ∧
        r.2 = (Session.builderPart 0).put after left.2.2 ∧ after.query.limit = none ∧
        after.query.wheres = [.test .and (.raw (.text "a"))] := by
  intro here caught body s left r
  have hn : (Session.needBuilder here (.builder 0)).run s = (.ok 0, s) := rfl
  obtain ⟨houtcome, after, hput, hsession⟩ :=
    (reads_putBack (L := Direct)).2.2.2 here (.builder 0) s 0 body hn
  exact ⟨hn, houtcome, after, hput, hsession, hput.limit, hput.wheres⟩

end Builder

end BoundSql
