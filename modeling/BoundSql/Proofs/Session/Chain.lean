import BoundSql.Connection.Direct
import BoundSql.Proofs.Query.Rearranged
import BoundSql.Proofs.Session.Run
import BoundSql.Proofs.Session.Steady
import BoundSql.Proofs.Statement.Bindings

/-!
# Chained calls on a builder

A chain is a list of calls that build the query of one builder, groups of conditions with calls on
their handles among them. It does nothing in a session but change that query, and every call of it
changes the part of its family. So the calls of different families can be made in any order: they
leave the same query, and from the same counter it renders the same.
-/

namespace BoundSql

open Attempt

variable {L L' : Type} [Connection L] [Connection L']

/-- The failure that an outcome is, if it is one. -/
def Attempt.failureOf {α : Type} : Except Failure α → Option Failure
  | .ok _ => none
  | .error failure => some failure

/-- The attempt, which answers all the same if its failures are caught. -/
def Attempt.tolerating {σ : Type} (caught : Bool) (act : Attempt σ Unit) : Attempt σ Unit :=
  if caught then do
    let _ ← act.outcome
    pure ()
  else act

/-- An attempt whose failures are caught answers whatever happens, and keeps what it did. -/
theorem Attempt.run_tolerating {σ : Type} (caught : Bool) (act : Attempt σ Unit) (s : σ) :
    (act.tolerating caught).run s = (if caught then .ok () else (act.run s).1, (act.run s).2) := by
  cases caught <;> rfl

namespace Query

/-- Catching failures does not change what an attempt reads and writes. -/
theorem Local.tolerating {family : Clause.Family} {act : Attempt Query Unit}
    (h : Local family act) (caught : Bool) : Local family (act.tolerating caught) := by
  intro p q
  rw [run_tolerating, run_tolerating, h p q]

/-- Add a member to the conditions on rows. -/
def addMember (token : Token) (q : Query) : Query := { q with wheres := q.wheres ++ [token] }

/-- Add conditions as a group under a connector; it is closed also when adding them fails. -/
def addMembers (connector : Connector) (inside : Attempt Query Unit) : Attempt Query Unit := do
  .update (addMember (.opening connector))
  inside.ensuring (addMember .closing)

/-- Add conditions as a group. -/
def addGroup (connector : Option Value) (inside : Attempt Query Unit) : Attempt Query Unit := do
  addMembers (← .ofExcept (Connector.ofArgument connector)) inside

/-- A group is opened, filled and closed, whether or not what fills it fails. -/
theorem run_addMembers (connector : Connector) (inside : Attempt Query Unit) (q : Query) :
    (addMembers connector inside).run q =
      let r := inside.run (addMember (.opening connector) q)
      (r.1, addMember .closing r.2) := rfl

/-- A group of conditions is a condition. -/
theorem local_addGroup (connector : Option Value) {inside : Attempt Query Unit}
    (h : Local .wheres inside) : Local .wheres (addGroup connector inside) := by
  refine Local.bind (.ofExcept _) fun connector p q => ?_
  have hinside := h (addMember (.opening connector) p) q
  have hopened : graft .wheres (addMember (.opening connector) p) q =
      addMember (.opening connector) (graft .wheres p q) := rfl
  rw [run_addMembers, run_addMembers, ← hopened, hinside]
  rfl

end Query

namespace Step

mutual

/-- Whether a step adds conditions through the handle of the group that it stands in, and so do the
steps inside it. -/
def onHandle : Step → Bool
  | plain site (.clause (.condition _)) => site.register.isNone
  | block site (.group _) body => site.register.isNone && onHandleAll body
  | _ => false

/-- Whether all steps add conditions through the handle of the group that they stand in. -/
def onHandleAll : List Step → Bool
  | [] => true
  | step :: rest => onHandle step && onHandleAll rest

end

/-- The family of a call that is chained on the present builder: a call that builds the query, or a
group of conditions that are added through handles. -/
def family? : Step → Option Clause.Family
  | plain ⟨none, _, false⟩ (.clause call) => some call.family
  | block ⟨none, _, false⟩ (.group _) body => if onHandleAll body then some .wheres else none
  | _ => none

mutual

/-- What a chained call does to the query. -/
def effect : Step → Attempt Query Unit
  | plain site (.clause call) => call.apply.tolerating site.caught
  | block site (.group connector) body =>
    (Query.addGroup connector (effectAll body)).tolerating site.caught
  | _ => pure ()

/-- What calls do to the query, one after another. -/
def effectAll : List Step → Attempt Query Unit
  | [] => pure ()
  | step :: rest => do
    effect step
    effectAll rest

end

mutual

/-- On the handle of a group nothing but the conditions changes. -/
theorem local_onHandle (step : Step) (h : step.onHandle = true) :
    Query.Local .wheres step.effect := by
  match step, h with
  | plain site (.clause (.condition call)), _ =>
    rw [effect]
    exact (Clause.local_apply (.condition call)).tolerating site.caught
  | block site (.group connector) body, h =>
    rw [onHandle, Bool.and_eq_true] at h
    rw [effect]
    exact (Query.local_addGroup connector (local_onHandleAll body h.2)).tolerating site.caught

/-- A chain of calls on a group handle adds conditions only. -/
theorem local_onHandleAll (steps : List Step) (h : onHandleAll steps = true) :
    Query.Local .wheres (effectAll steps) := by
  match steps, h with
  | [], _ => exact .pure ()
  | step :: rest, h =>
    rw [onHandleAll, Bool.and_eq_true] at h
    rw [effectAll]
    exact (local_onHandle step h.1).bind fun _ => local_onHandleAll rest h.2

end

/-- What a chained call is. -/
theorem family?_eq_some {step : Step} {family : Clause.Family} (h : step.family? = some family) :
    (∃ caught call, step = plain ⟨none, caught, false⟩ (.clause call) ∧ call.family = family) ∨
      ∃ caught connector body, step = block ⟨none, caught, false⟩ (.group connector) body ∧
        onHandleAll body = true ∧ family = .wheres := by
  unfold family? at h
  split at h
  · cases h
    exact .inl ⟨_, _, rfl, rfl⟩
  · split at h
    · rename_i hbody
      cases h
      exact .inr ⟨_, _, _, rfl, hbody, rfl⟩
    · cases h
  · cases h

/-- A chained call works on the part of its family. -/
theorem local_effect {step : Step} {family : Clause.Family} (h : step.family? = some family) :
    Query.Local family step.effect := by
  obtain ⟨caught, call, rfl, rfl⟩ | ⟨caught, connector, body, rfl, hbody, rfl⟩ := family?_eq_some h
  · rw [effect]
    exact call.local_apply.tolerating caught
  · rw [effect]
    exact (Query.local_addGroup connector (local_onHandleAll body hbody)).tolerating caught

end Step

namespace Session

variable {n : Nat}

theorem queryPart_put_self (n : Nat) (s : Session L) :
    (queryPart n).put (s.builder n).query s = s := by
  have hbuilders : s.builders.set n (s.builder n) = s.builders := by
    by_cases hn : n < s.builders.length
    · rw [builder, List.getElem?_eq_getElem hn]
      exact List.set_getElem_self hn
    · exact List.set_eq_of_length_le (Nat.le_of_not_lt hn)
  dsimp only [queryPart]
  rw [hbuilders]

/-- Writing a query makes no builder. -/
theorem length_queryPart_put (n : Nat) (q : Query) (s : Session L) :
    ((queryPart n).put q s).builders.length = s.builders.length := List.length_set

/-- The builder then has the query, and is otherwise as it was. -/
theorem builder_queryPart_put {s : Session L} (hn : n < s.builders.length) (q : Query) :
    ((queryPart n).put q s).builder n = { s.builder n with query := q } :=
  builder_set_self hn _

/-- Of two queries written one after another the second stays. -/
theorem queryPart_put_put {s : Session L} (hn : n < s.builders.length) (p q : Query) :
    (queryPart n).put p ((queryPart n).put q s) = (queryPart n).put p s := by
  have hbuilder := builder_queryPart_put hn q
  dsimp only [queryPart] at hbuilder ⊢
  rw [hbuilder, List.set_set]

/-- A run on a session does to the query of a builder what an attempt does, and nothing else. -/
structure Does (n : Nat) (act : Attempt Query Unit) (s : Session L) (failure : Option Failure)
    (t : Session L) : Prop where
  /-- The run is stopped by the failure of the attempt. -/
  failure : failure = failureOf (act.run (s.builder n).query).1
  /-- Nothing but the query changes. -/
  session : t = (queryPart n).put (act.run (s.builder n).query).2 s

/-- The receiver that a call returns is no matter of the session. -/
theorem run_returned (receiver : Receiver) (s : Session L) :
    ∃ answer, (returned receiver).run s = (.ok answer, s) := by
  cases receiver with
  | builder n => exact ⟨_, rfl⟩
  | group n => exact ⟨_, rfl⟩

/-- A call on the query that returns its receiver. -/
theorem run_within_returned (act : Attempt Query Unit) (n : Nat) (receiver : Receiver)
    (s : Session L) :
    ∃ answer, (act.within (queryPart n) >>= fun _ => returned receiver).run s =
      ((act.run (s.builder n).query).1.map fun _ => answer,
        (queryPart n).put (act.run (s.builder n).query).2 s) := by
  have hget : (queryPart n).get s = (s.builder n).query := rfl
  obtain ⟨answer, hreturned⟩ :=
    run_returned receiver ((queryPart n).put (act.run (s.builder n).query).2 s)
  refine ⟨answer, ?_⟩
  rw [run_bind, run_within, hget]
  rcases hact : act.run (s.builder n).query with ⟨failure | _, q⟩
  · rfl
  · rw [hact] at hreturned
    exact hreturned

end Session

namespace Step

open Session

variable {n : Nat}

/-- A step stops its chain if it fails and nobody catches the failure. -/
theorem stops_mk (step : Step) (outcome : Except Failure Answer) (inner : Option (List Entry)) :
    stops step ⟨outcome, inner⟩ = if step.site.caught then none else failureOf outcome := by
  unfold stops
  dsimp only [Entry.outcome]
  cases outcome <;> cases step.site.caught <;> rfl

/-- What a step does is what it does before its failures are caught. -/
theorem does_of_run {step : Step} {here : Receiver} {s : Session L} {act : Attempt Query Unit}
    {answer : Answer} {inner : Option (List Entry)}
    (heffect : step.effect = act.tolerating step.site.caught)
    (hrun : run step here s = (⟨(act.run (s.builder n).query).1.map fun _ => answer, inner⟩,
      (queryPart n).put (act.run (s.builder n).query).2 s)) :
    Does n step.effect s (stops step (run step here s).1) (run step here s).2 := by
  rw [heffect, hrun]
  constructor
  · rw [stops_mk, run_tolerating]
    dsimp only
    split
    · rfl
    · cases (act.run (s.builder n).query).1 <;> rfl
  · rw [run_tolerating]

/-- A call on a builder does to its query what the call itself does. -/
theorem does_clause {site : Site} {call : Clause} {here : Receiver} (s : Session L)
    (h : (Action.clause call).perform site here =
      (call.apply.within (queryPart n) >>= fun _ => returned (L := L) here)) :
    Does n (effect (.plain site (.clause call))) s
      (stops (.plain site (.clause call)) (run (.plain site (.clause call)) here s).1)
      (run (.plain site (.clause call)) here s).2 := by
  obtain ⟨answer, hreturned⟩ := run_within_returned call.apply n here s
  rw [← h] at hreturned
  have hrun : run (.plain site (.clause call)) here s =
      (⟨(((Action.clause call).perform site here).run s).1, none⟩,
        (((Action.clause call).perform site here).run s).2) := by
    rw [run]
    rfl
  rw [hreturned] at hrun
  exact does_of_run (by rw [effect]; rfl) hrun

/-- Steps inside a call do the same on the frame of the call. -/
theorem run_inside {act : Attempt Query Unit} {body : List Step} {receiver : Receiver}
    {s : Session L} (h : Does n act s (runAll body receiver s).2.1 (runAll body receiver s).2.2)
    (inner : Option (List Entry)) :
    ∃ entries, (inside body receiver).run ⟨s, inner⟩ =
      ((act.run (s.builder n).query).1,
        ⟨(queryPart n).put (act.run (s.builder n).query).2 s, some entries⟩) := by
  obtain ⟨hfailure, hsession⟩ := h
  refine ⟨(runAll body receiver s).1, ?_⟩
  rw [← hsession]
  unfold inside Attempt.run at *
  dsimp only
  rw [hfailure]
  rcases (act (s.builder n).query).1 with failure | _ <;> rfl

/-- Steps inside a group are run between its start and its end. -/
theorem run_around_group {site : Site} {connector : Option Value} {c : Connector}
    {body : List Step} {here receiver : Receiver} {s : Session L} (hn : n < s.builders.length)
    (hreceiver : (receiverOf site here).run s = (.ok receiver, s)) (hnumber : receiver.number = n)
    (hconnector : Connector.ofArgument connector = .ok c)
    (hbody : ∀ t : Session L, n < t.builders.length →
      Does n (effectAll body) t (runAll body (.group n) t).2.1 (runAll body (.group n) t).2.2) :
    ∃ answer inner,
      ((Block.group connector).around site here (inside body) body.length).run ⟨s, none⟩ =
        (((Query.addMembers c (effectAll body)).run (s.builder n).query).1.map fun _ => answer,
          ⟨(queryPart n).put
            ((Query.addMembers c (effectAll body)).run (s.builder n).query).2 s, inner⟩) := by
  let q := Query.addMember (.opening c) (s.builder n).query
  let opened : Session L := (queryPart n).put q s
  have hopened : opened.builder n = { s.builder n with query := q } := builder_queryPart_put hn q
  have hn' : n < opened.builders.length := by rwa [length_queryPart_put]
  obtain ⟨entries, hinside⟩ := run_inside (hbody opened hn') none
  rw [hopened] at hinside
  have hscope : ((inside body (.group n)).ensuring (Block.addToken n .closing)).run ⟨opened, none⟩ =
      (((effectAll body).run q).1,
        ⟨(queryPart n).put (Query.addMember .closing ((effectAll body).run q).2) s,
          some entries⟩) := by
    have hclosed := builder_queryPart_put hn ((effectAll body).run q).2
    rw [run_ensuring, hinside, queryPart_put_put hn]
    dsimp only [Block.addToken]
    rw [hclosed, queryPart_put_put hn]
    rfl
  obtain ⟨answer, hreturned⟩ := run_returned receiver
    ((queryPart n).put (Query.addMember .closing ((effectAll body).run q).2) s)
  refine ⟨answer, some entries, ?_⟩
  have hget : (Frame.sessionPart : Part (Frame L) (Session L)).get ⟨s, none⟩ = s := rfl
  rw [Block.around, run_bind, run_within, hget, hreceiver]
  dsimp only
  rw [hnumber, hconnector, run_bind, run_ofExcept]
  dsimp only
  rw [run_bind, run_update]
  have hfirst : Block.addToken n (.opening c) (Frame.sessionPart.put s ⟨s, none⟩) =
      (⟨opened, none⟩ : Frame L) := rfl
  rw [hfirst, Query.run_addMembers]
  dsimp only
  rw [run_bind, hscope]
  rcases ((effectAll body).run q).1 with failure | _
  · rfl
  · dsimp only
    rw [run_within]
    dsimp only [Frame.sessionPart]
    rw [hreturned]
    rfl

/-- A group does what adding its conditions as a group does. -/
theorem does_group {site : Site} {connector : Option Value} {body : List Step}
    {here : Receiver} (receiver : Receiver) {s : Session L} (hn : n < s.builders.length)
    (hreceiver : (receiverOf site here).run s = (.ok receiver, s)) (hnumber : receiver.number = n)
    (hbody : ∀ t : Session L, n < t.builders.length →
      Does n (effectAll body) t (runAll body (.group n) t).2.1 (runAll body (.group n) t).2.2) :
    Does n (effect (.block site (.group connector) body)) s
      (stops (.block site (.group connector) body)
        (run (.block site (.group connector) body) here s).1)
      (run (.block site (.group connector) body) here s).2 := by
  have haround : ∃ answer inner,
      ((Block.group connector).around site here (inside body) body.length).run ⟨s, none⟩ =
        (((Query.addGroup connector (effectAll body)).run (s.builder n).query).1.map
            fun _ => answer,
          ⟨(queryPart n).put
            ((Query.addGroup connector (effectAll body)).run (s.builder n).query).2 s,
            inner⟩) := by
    cases hconnector : Connector.ofArgument connector with
    | error failure =>
      refine ⟨.receiver none, none, ?_⟩
      have hgroup : (Query.addGroup connector (effectAll body)).run (s.builder n).query =
          (.error failure, (s.builder n).query) := by
        rw [Query.addGroup, hconnector]
        rfl
      have hget : (Frame.sessionPart : Part (Frame L) (Session L)).get ⟨s, none⟩ = s := rfl
      rw [hgroup, queryPart_put_self, Block.around, run_bind, run_within, hget, hreceiver]
      dsimp only
      rw [hconnector]
      rfl
    | ok c =>
      have hgroup : Query.addGroup connector (effectAll body) =
          Query.addMembers c (effectAll body) := by
        rw [Query.addGroup, hconnector]
        rfl
      rw [hgroup]
      exact run_around_group hn hreceiver hnumber hconnector hbody
  obtain ⟨answer, inner, haround⟩ := haround
  have hrun := run_block site (.group connector) body here s
  rw [haround] at hrun
  exact does_of_run (by rw [effect]; rfl) hrun

/-- Steps do one after another what each of them does. -/
theorem does_cons {step : Step} {rest : List Step} {here : Receiver} {s : Session L}
    (hn : n < s.builders.length)
    (hstep : Does n step.effect s (stops step (run step here s).1) (run step here s).2)
    (hrest : ∀ t : Session L, n < t.builders.length →
      Does n (effectAll rest) t (runAll rest here t).2.1 (runAll rest here t).2.2) :
    Does n (effectAll (step :: rest)) s (runAll (step :: rest) here s).2.1
      (runAll (step :: rest) here s).2.2 := by
  obtain ⟨hfailure, hsession⟩ := hstep
  rcases heffect : step.effect.run (s.builder n).query with ⟨failure | _, q⟩
  · rw [heffect] at hfailure hsession
    have hrun : runAll (step :: rest) here s =
        ([(run step here s).1], some failure, (run step here s).2) := by
      rw [runAll_cons]
      dsimp only
      rw [show stops step (run step here s).1 = some failure from hfailure]
    constructor <;> rw [hrun, effectAll, run_bind, heffect]
    · rfl
    · exact hsession
  · rw [heffect] at hfailure hsession
    have hrun : runAll (step :: rest) here s =
        ((run step here s).1 :: (runAll rest here (run step here s).2).1,
          (runAll rest here (run step here s).2).2) := by
      rw [runAll_cons]
      dsimp only
      rw [show stops step (run step here s).1 = none from hfailure]
    have hn' : n < (run step here s).2.builders.length := by
      rwa [hsession, length_queryPart_put]
    obtain ⟨hfailure', hsession'⟩ := hrest _ hn'
    have hquery : ((run step here s).2.builder n).query = q := by
      rw [hsession, builder_queryPart_put hn]
    rw [hquery] at hfailure' hsession'
    constructor <;> rw [hrun, effectAll, run_bind, heffect]
    · exact hfailure'
    · dsimp only
      rw [hsession', hsession, queryPart_put_put hn]

mutual

/-- On the handle of a group a step does what it says. -/
theorem does_onHandle (step : Step) (h : step.onHandle = true) (s : Session L)
    (hn : n < s.builders.length) :
    Does n step.effect s (stops step (run step (.group n) s).1) (run step (.group n) s).2 := by
  match step, h with
  | plain ⟨register, caught, handle⟩ (.clause (.condition call)), h =>
    cases Option.isNone_iff_eq_none.mp h
    exact does_clause s (by cases handle <;> rfl)
  | block ⟨register, caught, handle⟩ (.group connector) body, h =>
    rw [onHandle, Bool.and_eq_true] at h
    cases Option.isNone_iff_eq_none.mp h.1
    exact does_group (.group n) hn (by cases handle <;> rfl) rfl
      (does_onHandleAll body h.2)

/-- A chain of calls on a group handle does to the query what its calls do one after another. -/
theorem does_onHandleAll (steps : List Step) (h : onHandleAll steps = true) (s : Session L)
    (hn : n < s.builders.length) :
    Does n (effectAll steps) s (runAll steps (.group n) s).2.1
      (runAll steps (.group n) s).2.2 := by
  match steps, h with
  | [], _ =>
    rw [effectAll, runAll]
    exact ⟨rfl, (queryPart_put_self n s).symm⟩
  | step :: rest, h =>
    rw [onHandleAll, Bool.and_eq_true] at h
    exact does_cons hn (does_onHandle step h.1 s hn) (does_onHandleAll rest h.2)

end

/-- A chained call does what it says. -/
theorem does_chained {step : Step} (h : step.family?.isSome = true) {s : Session L}
    (hn : n < s.builders.length) :
    Does n step.effect s (stops step (run step (.builder n) s).1) (run step (.builder n) s).2 := by
  obtain ⟨family, hfamily⟩ := Option.isSome_iff_exists.mp h
  obtain ⟨caught, call, rfl, _⟩ | ⟨caught, connector, body, rfl, hbody, _⟩ :=
    family?_eq_some hfamily
  · exact does_clause s rfl
  · exact does_group (.builder n) hn rfl rfl (does_onHandleAll body hbody)

/-- A chain does what its calls do, one after another. -/
theorem does_chain {steps : List Step} (h : ∀ step ∈ steps, step.family?.isSome = true)
    {s : Session L} (hn : n < s.builders.length) :
    Does n (effectAll steps) s (runAll steps (.builder n) s).2.1
      (runAll steps (.builder n) s).2.2 := by
  induction steps generalizing s with
  | nil =>
    rw [effectAll, runAll]
    exact ⟨rfl, (queryPart_put_self n s).symm⟩
  | cons step rest ih =>
    exact does_cons hn (does_chained (h step List.mem_cons_self) hn)
      fun t ht => ih (fun step hm => h step (.tail _ hm)) ht

/-- The calls of a chain, each with its family. -/
def calls (steps : List Step) : List (Clause.Family × Attempt Query Unit) :=
  steps.filterMap fun step => step.family?.map fun family => (family, step.effect)

/-- The effect of a chain is that of its calls in order. -/
theorem effectAll_eq {steps : List Step} (h : ∀ step ∈ steps, step.family?.isSome = true) :
    effectAll steps = Query.inOrder (calls steps) := by
  induction steps with
  | nil => rw [effectAll]; rfl
  | cons step rest ih =>
    obtain ⟨family, hfamily⟩ := Option.isSome_iff_exists.mp (h step List.mem_cons_self)
    have hcalls : calls (step :: rest) = (family, step.effect) :: calls rest :=
      List.filterMap_cons_some (by rw [hfamily]; rfl)
    rw [effectAll, hcalls, Query.inOrder, ih fun step hm => h step (.tail _ hm)]

/-- Every call of a chain reads and writes its own family. -/
theorem local_calls (steps : List Step) : ∀ call ∈ calls steps, Query.Local call.1 call.2 := by
  intro call hm
  obtain ⟨step, _, hstep⟩ := List.mem_filterMap.mp hm
  obtain ⟨family, hfamily, rfl⟩ := Option.map_eq_some_iff.mp hstep
  exact local_effect hfamily

/-- The calls of one family are those of the steps of that family. -/
theorem ofFamily_calls (family : Clause.Family) (steps : List Step) :
    Query.ofFamily family (calls steps) =
      calls (steps.filter fun step => step.family? = some family) := by
  unfold Query.ofFamily calls
  rw [List.filter_filterMap, List.filterMap_filter]
  congr 1
  funext step
  cases hfamily : step.family? with
  | none => simp
  | some other => by_cases hsame : other = family <;> simp [hsame]

end Step

/-- What a builder renders depends on its query, its counter and its dialect only; in particular the
values bound before have no part in it. -/
theorem Builder.compile_congr {b b' : Builder} (hquery : b'.query = b.query)
    (hcounter : b'.binder.counter = b.binder.counter) (hdialect : b'.dialect = b.dialect) :
    (compile.run b').1 = (compile.run b).1 ∧
      (compile.run b').2.binder = (compile.run b).2.binder := by
  have hreset : b'.binder.reset = b.binder.reset := congrArg (Binder.mk []) hcounter
  have hcompile : ∀ b : Builder,
      compile.run b = (renderWith (b.query.render b.dialect)).run b := fun _ => rfl
  rw [hcompile, hcompile, hquery, hdialect]
  exact renderWith_congr _ hreset hdialect

namespace Step

/-- The calls of a chain in another order, with those of each family in their order. Where the chain
is not stopped by a failure, neither is the other one; both leave the same query and bind nothing;
and from the same counter both queries render the same, or fail to with the same failure. -/
theorem runAll_rearranged {steps steps' : List Step}
    (hchain : ∀ step ∈ steps, step.family?.isSome = true) (hperm : steps'.Perm steps)
    (horder : ∀ family : Clause.Family, (steps'.filter fun step => step.family? = some family) =
      steps.filter fun step => step.family? = some family)
    {s : Session L} {s' : Session L'} {n n' : Nat} (hn : n < s.builders.length)
    (hn' : n' < s'.builders.length) (hquery : (s'.builder n').query = (s.builder n).query)
    (hpasses : (runAll steps (.builder n) s).2.1 = none) :
    let b := (runAll steps (.builder n) s).2.2.builder n
    let b' := (runAll steps' (.builder n') s').2.2.builder n'
    (runAll steps' (.builder n') s').2.1 = none ∧ b'.query = b.query ∧
      b.binder = (s.builder n).binder ∧ b'.binder = (s'.builder n').binder ∧
      ((s'.builder n').binder.counter = (s.builder n).binder.counter →
        (s'.builder n').dialect = (s.builder n).dialect →
        (Builder.compile.run b').1 = (Builder.compile.run b).1 ∧
          (Builder.compile.run b').2.binder = (Builder.compile.run b).2.binder) := by
  intro b b'
  have hchain' : ∀ step ∈ steps', step.family?.isSome = true :=
    fun step hm => hchain step (hperm.mem_iff.mp hm)
  have hdoes := does_chain hchain hn
  have hdoes' := does_chain hchain' hn'
  have hb : b = { s.builder n with query := ((effectAll steps).run (s.builder n).query).2 } := by
    dsimp only [b]
    rw [hdoes.session, Session.builder_queryPart_put hn]
  have hb' : b' =
      { s'.builder n' with query := ((effectAll steps').run (s.builder n).query).2 } := by
    dsimp only [b']
    rw [hdoes'.session, Session.builder_queryPart_put hn', hquery]
  have hrun : (effectAll steps).run (s.builder n).query = (.ok (), b.query) := by
    have hfailure := hdoes.failure
    rw [hpasses] at hfailure
    rw [hb]
    rcases heffect : (effectAll steps).run (s.builder n).query with ⟨failure | _, q⟩
    · rw [heffect] at hfailure
      cases hfailure
    · rfl
  have hrun' : (effectAll steps').run (s.builder n).query = (.ok (), b.query) := by
    rw [effectAll_eq hchain] at hrun
    rw [effectAll_eq hchain']
    refine Query.run_rearranged (local_calls steps) (local_calls steps') (fun family => ?_) hrun
    rw [ofFamily_calls, ofFamily_calls, horder family]
  have hsame : b'.query = b.query := by rw [hb', hrun']
  refine ⟨?_, hsame, by rw [hb], by rw [hb'], fun hcounter hdialect => ?_⟩
  · rw [hdoes'.failure, hquery, hrun']
    rfl
  · refine Builder.compile_congr hsame ?_ ?_
    · rw [hb, hb']
      exact hcounter
    · rw [hb, hb']
      exact hdialect

/-- Six calls, among them a group with a group inside it, and the same calls with every two
neighbours of different families exchanged; the second chain goes on where four names have been
issued. -/
theorem runAll_rearranged_nested :
    let here : Site := ⟨none, false, false⟩
    let call := fun c : Clause => Step.plain here (.clause c)
    let condition := fun (column : String) (n : Int) =>
      call (.condition (.compare (.text column) (some (.text ">")) (some (.int n)) none))
    let table := call (.table (.text "t") none)
    let group := Step.block here (.group none)
      [condition "a" 1, .block here (.group (some (.text "or"))) [condition "b" 2]]
    let select := call (.select (some (.text "a")))
    let having := call (.having (.text "d") (.text "<") (.int 4) none)
    let limit := call (.limit (.int 5))
    let steps := [table, group, select, condition "c" 3, having, limit]
    let steps' := [group, table, condition "c" 3, select, limit, having]
    let s : Session Direct := .start .standard (.ofTarget .sqlite) none .nothing false
    let s' : Session Direct :=
      { s with builders := [⟨.fresh, ⟨[("p4", .null)], 4⟩, .ofTarget .sqlite⟩], trace := true }
    (runAll steps (.builder 0) s).2.1 = none ∧ (runAll steps' (.builder 0) s').2.1 = none ∧
      ((runAll steps' (.builder 0) s').2.2.builder 0).query =
        ((runAll steps (.builder 0) s).2.2.builder 0).query ∧
      (Builder.compile.run ((runAll steps (.builder 0) s).2.2.builder 0)).1.toOption.map
          Compiled.sql =
        some "SELECT a FROM t WHERE (a > :p1 OR (b > :p2)) AND c > :p3 HAVING d < :p4 LIMIT 5" := by
  intro here call condition table group select having limit steps steps' s s'
  have hpasses : (runAll steps (.builder 0) s).2.1 = none :=
    Option.isNone_iff_eq_none.mp (by decide +kernel)
  have hperm : steps'.Perm steps :=
    (List.Perm.swap table group _).trans (.cons _ (.cons _
      ((List.Perm.swap select (condition "c" 3) _).trans (.cons _ (.cons _ (.swap _ _ _))))))
  have hchain : ∀ step ∈ steps, step.family?.isSome = true := by
    intro step hm
    simp only [steps, List.mem_cons, List.not_mem_nil, or_false] at hm
    rcases hm with rfl | rfl | rfl | rfl | rfl | rfl <;> rfl
  have horder : ∀ family : Clause.Family,
      (steps'.filter fun step => step.family? = some family) =
        steps.filter fun step => step.family? = some family := by
    intro family
    cases family <;> rfl
  have hn : 0 < s.builders.length := by decide
  have hn' : 0 < s'.builders.length := by decide
  obtain ⟨hpasses', hquery, _⟩ := runAll_rearranged hchain hperm horder hn hn' rfl hpasses
  exact ⟨hpasses, hpasses', hquery, by decide +kernel⟩

end Step

end BoundSql
