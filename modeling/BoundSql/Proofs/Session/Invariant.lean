import BoundSql.Proofs.Session.Upheld

/-!
# Invariants of sessions

A property that holds of a session, and that each call building a query keeps, holds at every moment
of a run: calls that run statements overlook it, and so do the calls with steps inside them, which
add markers, begin and end transactions and put builders back.
-/

namespace BoundSql

open Attempt

variable {L : Type} [Connection L]

namespace Session

/-- A steady property of sessions that overlooks what is added to the condition lists. -/
structure Invariant (P : Session L → Prop) : Prop extends Steady P where
  /-- It overlooks the conditions on rows, -/
  wheres : ∀ n token,
    Keeps P
      ((Attempt.update fun q => { q with wheres := q.wheres ++ [token] }).within (queryPart n))
  /-- and the conditions on groups. -/
  having : ∀ n token,
    Keeps P
      ((Attempt.update fun q => { q with having := q.having ++ [token] }).within (queryPart n))

/-- A property that every builder's query has. -/
def Every (Q : Query → Prop) (s : Session L) : Prop := ∀ n, Q (s.builder n).query

variable {Q : Query → Prop} {P : Session L → Prop}

/-- Replacing one query by one with the property keeps it for all. -/
theorem every_set {s : Session L} (h : Every Q s) (n : Nat) {b : Builder} (hb : Q b.query) :
    Every Q { s with builders := s.builders.set n b } :=
  fun m => holds_builder_set (Q := fun b => Q b.query) (fun _ _ => hb) fun _ => h m

/-- What an attempt keeps of a query it keeps of every query in a session. -/
theorem keeps_every {α : Type} {act : Attempt Query α} (h : Keeps Q act) (n : Nat) :
    Keeps (Every (L := L) Q) (act.within (queryPart n)) :=
  fun _ hs => every_set hs n (h _ (hs n))

theorem every_start (hfresh : Q .fresh) (settings : Settings) (dialect : Dialect)
    (link : Option L) (tables : TableSource) (trace : Bool) :
    Every Q (start settings dialect link tables trace) := by
  intro n
  cases n with
  | zero => exact hfresh
  | succ n => exact hfresh

/-- A property that looks at the data of inserts only is an invariant. -/
theorem invariant_of_insert (R : Option InsertData → Prop) :
    Invariant (Every (L := L) fun q => R q.insert) where
  others s t hbuilders _ hsettings hs n := by
    have hn := hs n
    unfold builder at hn ⊢
    rwa [hbuilders, hsettings]
  builder s n b hb hs := by
    have hinsert : b.query.insert = (s.builder n).query.insert := by rw [← hb]; rfl
    refine every_set hs n ?_
    rw [hinsert]
    exact hs n
  kind n kind _ hs := every_set hs n (hs n)
  newBuilder register s hs n := by
    rw [builder_newBuilder]
    exact hs n
  wheres n token _ hs := every_set hs n (hs n)
  having n token _ hs := every_set hs n (hs n)

end Session

variable {P : Session L → Prop}

namespace Step

mutual

/-- The calls that build a query made by a step, those of the steps inside it included. -/
def clauses : Step → List Clause
  | plain _ action => action.clauses
  | block _ _ body => clausesAll body

/-- The calls that build a query made by steps, those of the steps inside them included. -/
def clausesAll : List Step → List Clause
  | [] => []
  | step :: rest => clauses step ++ clausesAll rest

end

mutual

/-- The building calls of a step are those of its actions. -/
theorem clauses_eq (step : Step) : clauses step = (actions step).flatMap Action.clauses := by
  match step with
  | .plain _ action => exact (List.flatMap_singleton ..).symm
  | .block _ _ body => exact clausesAll_eq body

/-- The calls that build a query are those made by the calls that run no other steps. -/
theorem clausesAll_eq (steps : List Step) :
    clausesAll steps = (actionsAll steps).flatMap Action.clauses := by
  match steps with
  | [] => rfl
  | step :: rest =>
    rw [clausesAll, actionsAll, List.flatMap_append, clauses_eq step, clausesAll_eq rest]

end

/-- Calls that build a query and keep a property of sessions on whatever builder they are made. -/
def Kept (P : Session L → Prop) (calls : List Clause) : Prop :=
  ∀ call ∈ calls, ∀ n, Keeps P (call.apply.within (Session.queryPart n))

end Step

/-- An invariant is upheld by calls that build queries only as it is kept. -/
theorem Session.Invariant.upheld (h : Session.Invariant P) :
    Session.Upheld P fun action => Step.Kept P action.clauses where
  toOfStore := h.ofStore
  action site here action hclauses := by
    refine action.keeps_performed h.toSteady site here hclauses fun n list token _ => ?_
    cases list with
    | wheres => exact (h.wheres n token).bind fun _ => .pure _
    | having => exact (h.having n token).bind fun _ => .pure _
  marker n token _ := h.wheres n token
  putBack n s t _ ht := h.builder t n _ rfl ht

namespace Step

/-- An invariant holds at every moment of a script if all calls keep it by which queries are
built. -/
theorem Reaches.holds (h : Session.Invariant P) {steps : List Step} {inside : List Nat}
    {s t : Session L} (hreaches : Reaches steps s inside t) (hsteps : Kept P (clausesAll steps))
    (hs : P s) : P t := by
  refine h.upheld.reaches hreaches (fun action haction call hcall n => ?_) hs
  refine hsteps call ?_ n
  rw [clausesAll_eq]
  exact List.mem_flatMap_of_mem haction hcall

end Step

end BoundSql
