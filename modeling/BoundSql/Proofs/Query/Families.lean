import BoundSql.Query.Clause

/-!
# The part of a query that a call changes

The calls that build a query fall into families, each with a part of the query that only its own
calls change. A call that fails changes no other part either. What a call does to its part depends
on no other part.
-/

namespace BoundSql

open Attempt

namespace Clause

/-- The families of the calls that build a query. -/
inductive Family where
  | table | statement | joins | wheres | having | groupBy | orderBy | limit | offset
  deriving DecidableEq, Repr

/-- The family of a call. -/
def family : Clause → Family
  | table _ _ => .table
  | select _ | insert _ | insertColumns _ | values _ | insertRow _ | update _ | delete => .statement
  | join _ _ _ _ _ => .joins
  | having _ _ _ _ => .having
  | groupBy _ => .groupBy
  | orderBy _ _ => .orderBy
  | limit _ => .limit
  | offset _ => .offset
  | condition _ => .wheres

end Clause

namespace Query

/-- The second query with the part of a family taken from the first. -/
def graft : Clause.Family → Query → Query → Query
  | .table, p, q => { q with table := p.table, label := p.label }
  | .statement, p, q =>
    { q with kind := p.kind, columns := p.columns, insert := p.insert, update := p.update }
  | .joins, p, q => { q with joins := p.joins }
  | .wheres, p, q => { q with wheres := p.wheres }
  | .having, p, q => { q with having := p.having }
  | .groupBy, p, q => { q with groupBy := p.groupBy }
  | .orderBy, p, q => { q with orderBy := p.orderBy }
  | .limit, p, q => { q with limit := p.limit }
  | .offset, p, q => { q with offset := p.offset }

/-- Queries that differ from a given one in the part of one family only. -/
def OnlyIn (family : Clause.Family) (q q' : Query) : Prop := q' = graft family q' q

/-- The attempt works on the part of a family: what it comes to and what it makes of that part
depend on that part alone, and the other parts stay as they are. -/
def Local {α : Type} (family : Clause.Family) (act : Attempt Query α) : Prop :=
  ∀ p q, act.run (graft family p q) = ((act.run p).1, graft family (act.run p).2 q)

variable {α β : Type} {family : Clause.Family} {p q r : Query}

/-! ### Taking parts from other queries -/

@[simp] theorem graft_self (family : Clause.Family) (q : Query) : graft family q q = q := by
  cases family <;> rfl

/-- A part that is taken twice is the one taken last, -/
@[simp] theorem graft_graft (family : Clause.Family) (p r q : Query) :
    graft family p (graft family r q) = graft family p q := by
  cases family <;> rfl

/-- and it is taken from where it was put. -/
@[simp] theorem graft_graft_left (family : Clause.Family) (p r q : Query) :
    graft family (graft family p r) q = graft family p q := by
  cases family <;> rfl

/-- Taking the part of one family leaves the parts of the others, -/
theorem graft_of_ne {other : Clause.Family} (h : family ≠ other) (p q : Query) :
    graft family (graft other p q) q = q := by
  cases family <;> cases other <;> first | rfl | exact absurd rfl h

/-- and queries that agree in a part agree in it the other way round. -/
theorem graft_eq_symm (h : graft family p q = q) : graft family q p = p := by
  rw [← h, graft_graft_left, graft_self]

/-- A query consists of the parts of the families. -/
theorem graft_all (p q : Query) :
    graft .table p (graft .statement p (graft .joins p (graft .wheres p (graft .having p
      (graft .groupBy p (graft .orderBy p (graft .limit p (graft .offset p q)))))))) = p := rfl

/-- Queries with the same parts are the same. -/
theorem eq_of_graft (h : ∀ family, graft family p r = graft family q r) : p = q := by
  have hparts : ∀ family s, graft family p s = graft family q s := by
    intro family s
    rw [← graft_graft_left family p r s, h family, graft_graft_left]
  rw [← graft_all p r, ← graft_all q r]
  simp only [hparts]

/-- A change of one part leaves the parts of the other families. -/
theorem OnlyIn.graft_of_ne {other : Clause.Family} (h : OnlyIn other q p) (hne : family ≠ other) :
    graft family p q = q := by
  rw [h]
  exact Query.graft_of_ne hne p q

/-! ### Attempts on one part -/

namespace Local

protected theorem pure (a : α) : Local family (Pure.pure a) := fun _ _ => rfl

protected theorem fail (failure : Failure) : Local family (fail failure : Attempt Query α) :=
  fun _ _ => rfl

protected theorem ofExcept (e : Except Failure α) : Local family (ofExcept e) := by
  cases e with
  | ok a => exact .pure a
  | error failure => exact .fail failure

protected theorem update {f : Query → Query}
    (h : ∀ p q, f (graft family p q) = graft family (f p) q) :
    Local family (Attempt.update f) := by
  intro p q
  rw [run_update, h]
  rfl

/-- A sequence works on a part if both of its halves do. -/
protected theorem bind {act : Attempt Query α} {next : α → Attempt Query β} (h : Local family act)
    (hn : ∀ a, Local family (next a)) : Local family (act >>= next) := by
  intro p q
  rw [run_bind, run_bind, h p q]
  rcases act.run p with ⟨outcome, p'⟩
  cases outcome with
  | ok a => exact hn a p' q
  | error failure => rfl

/-- What an attempt looks at has to be in the part as well. -/
theorem reading {next : Query → Attempt Query α} (hn : ∀ s, Local family (next s))
    (hnext : ∀ p q, next (graft family p q) = next p) : Local family (state >>= next) := by
  intro p q
  rw [run_bind, run_bind, run_state, run_state]
  dsimp only
  rw [hnext]
  exact hn p p q

/-- Nothing but the part changes, also when the attempt fails. -/
theorem onlyIn {act : Attempt Query α} (h : Local family act) (q : Query) :
    OnlyIn family q (act.run q).2 := by
  have hself := h q q
  rw [graft_self] at hself
  exact congrArg Prod.snd hself

end Local

/-- Starting an insert reads and writes the data of the statement alone. -/
theorem local_startInsert (data : Value) : Local .statement (startInsert data) := by
  refine Local.bind (.update fun _ _ => rfl) fun _ => ?_
  split
  · exact .update fun _ _ => rfl
  · exact Local.bind (.ofExcept _) fun _ => .update fun _ _ => rfl

theorem local_startColumns (columns : Value) : Local .statement (startColumns columns) :=
  Local.bind (.update fun _ _ => rfl) fun _ =>
    Local.bind (.ofExcept _) fun _ => .update fun _ _ => rfl

theorem local_addValues (row : Value) : Local .statement (addValues row) := by
  refine Local.reading (fun s => ?_) fun _ _ => rfl
  split
  · refine Local.bind (.ofExcept _) fun values => ?_
    split
    · exact .update fun _ _ => rfl
    · exact .fail _
  · split
    · exact .fail _
    · exact .fail _

theorem local_addRow (row : Value) : Local .statement (addRow row) := by
  refine Local.reading (fun s => ?_) fun _ _ => rfl
  split
  · exact Local.bind (.ofExcept _) fun _ => .update fun _ _ => rfl
  · refine Local.bind (.ofExcept _) fun _ => Local.bind (.update fun _ _ => rfl) fun _ => ?_
    exact Local.bind (.ofExcept _) fun _ => .update fun _ _ => rfl
  · refine Local.bind (.ofExcept _) fun _ => Local.bind (.ofExcept _) fun _ => ?_
    exact .update fun _ _ => rfl

theorem local_startUpdate (data : Value) : Local .statement (startUpdate data) :=
  Local.bind (.update fun _ _ => rfl) fun _ =>
    Local.bind (.ofExcept _) fun _ => .update fun _ _ => rfl

/-- Adding a join reads and writes the joins alone. -/
theorem local_addJoin (table left operator right : Value) (kind : Option Value) :
    Local .joins (addJoin table left operator right kind) := by
  unfold addJoin
  split
  · split
    · exact .update fun _ _ => rfl
    · exact .fail _
  · exact .fail _

/-- Adding columns of groups reads and writes these alone. -/
theorem local_addGroupBy (columns : List Value) : Local .groupBy (addGroupBy columns) := by
  induction columns with
  | nil => exact .pure ()
  | cons v rest ih =>
    refine Local.bind (.ofExcept _) fun _ => ?_
    exact Local.bind (.update fun _ _ => rfl) fun _ => ih

end Query

/-- A call works on the part of its family. -/
theorem Clause.local_apply (call : Clause) : Query.Local call.family call.apply := by
  cases call with
  | table name label => exact .update fun _ _ => rfl
  | select columns =>
    refine Query.Local.bind (.update fun _ _ => rfl) fun _ => ?_
    exact Query.Local.bind (.ofExcept _) fun _ => .update fun _ _ => rfl
  | insert data => exact Query.local_startInsert data
  | insertColumns columns => exact Query.local_startColumns columns
  | values row => exact Query.local_addValues row
  | insertRow row => exact Query.local_addRow row
  | update data => exact Query.local_startUpdate data
  | delete => exact .update fun _ _ => rfl
  | join table left operator right kind => exact Query.local_addJoin table left operator right kind
  | having column operator value connector =>
    exact Query.Local.bind (.ofExcept _) fun _ => .update fun _ _ => rfl
  | groupBy columns => exact Query.local_addGroupBy columns
  | orderBy expression direction =>
    exact Query.Local.bind (.ofExcept _) fun _ => .update fun _ _ => rfl
  | limit count => exact Query.Local.bind (.ofExcept _) fun _ => .update fun _ _ => rfl
  | offset count => exact Query.Local.bind (.ofExcept _) fun _ => .update fun _ _ => rfl
  | condition call => exact Query.Local.bind (.update fun _ _ => rfl) fun _ => .ofExcept _

/-- A call changes the part of its family only, also when it fails. -/
theorem Clause.onlyIn_apply (call : Clause) (q : Query) :
    Query.OnlyIn call.family q (call.apply.run q).2 :=
  call.local_apply.onlyIn q

end BoundSql
