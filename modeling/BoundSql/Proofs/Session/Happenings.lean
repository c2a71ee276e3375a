import BoundSql.Proofs.Session.Books
import BoundSql.Proofs.Session.Moments
import Mathlib.Data.List.Induction

/-!
# What happens in a run

What happens in a run is a tree: statements that ran, and scopes with what happened inside them.
Statements outside of scopes last at once, and those inside an outermost scope last if it returns.
Scopes that join a transaction count for nothing by themselves. Outside of its scopes a run comes to
rest now and then, and so much has happened by then.
-/

namespace BoundSql

/-- What happens in a run. -/
inductive Happening where
  /-- A statement ran and did not fail. -/
  | statement (sql : String)
  /-- A scope was entered, and returned or failed. -/
  | scope (returned : Bool) (inside : List Happening)

namespace Happening

mutual

/-- The statements that ran, inside of scopes as well. -/
def statements : Happening → List String
  | statement sql => [sql]
  | scope _ inside => statementsAll inside

/-- The statements that ran, inside of scopes as well. -/
def statementsAll : List Happening → List String
  | [] => []
  | happening :: rest => statements happening ++ statementsAll rest

end

/-- What lasts where no scope is under way: a statement, and all that ran inside a scope that
returned. -/
def lasting : Happening → List String
  | statement sql => [sql]
  | scope true inside => statementsAll inside
  | scope false _ => []

/-- What lasts where no scope is under way. -/
def lastingAll (past : List Happening) : List String := past.flatMap lasting

theorem statementsAll_append (past more : List Happening) :
    statementsAll (past ++ more) = statementsAll past ++ statementsAll more := by
  induction past with
  | nil => rfl
  | cons happening rest ih => simp only [List.cons_append, statementsAll, ih, List.append_assoc]

end Happening

namespace Books

/-- The books after what happened since: everything waits while a transaction is open, and what
lasts is entered at once while none is. -/
def after (past : List Happening) (k : Books) : Books :=
  if k.isOpen then
    { k with ledger := { k.ledger with
      pending := k.ledger.pending ++ Happening.statementsAll past } }
  else
    { k with ledger := { k.ledger with
      committed := k.ledger.committed ++ Happening.lastingAll past } }

variable {k : Books}

/-- A history leaves the books open or closed, as they were. -/
@[simp] theorem isOpen_after (past : List Happening) (k : Books) :
    (k.after past).isOpen = k.isOpen := by
  unfold after
  split <;> rfl

/-- Where nothing waits outside of transactions, nothing does after a history. -/
theorem Settled.after (h : k.Settled) (past : List Happening) : (k.after past).Settled := by
  intro hopen
  rw [isOpen_after] at hopen
  simp only [Books.after, hopen, Bool.false_eq_true, if_false]
  exact h hopen

/-- In a transaction that has just begun nothing is out of place. -/
theorem settled_begun (k : Books) : k.begun.Settled := nofun

@[simp] theorem after_nil (k : Books) : k.after [] = k := by
  unfold after
  split <;> simp [Happening.statementsAll, Happening.lastingAll]

theorem after_append (past more : List Happening) (k : Books) :
    k.after (past ++ more) = (k.after past).after more := by
  cases hopen : k.isOpen <;>
    simp [after, hopen, Happening.statementsAll_append, Happening.lastingAll]

/-- While no transaction is open nothing waits, and what lasts has been entered. -/
theorem Settled.after_closed (h : k.Settled) (hopen : k.isOpen = false) (past : List Happening) :
    k.after past = ⟨false, [], k.ledger.committed ++ Happening.lastingAll past⟩ := by
  have hpending := h hopen
  simp [Books.after, hopen, hpending]

/-- Statements outside of scopes are entered one after another. -/
theorem after_statements (sqls : List String) (k : Books) :
    k.after (sqls.map .statement) = k.ranAll sqls := by
  induction sqls generalizing k with
  | nil => exact after_nil k
  | cons sql rest ih =>
    have hfirst : k.after [.statement sql] = k.ran sql := by
      cases hopen : k.isOpen <;>
        simp [after, ran, hopen, Happening.statementsAll, Happening.statements,
          Happening.lastingAll, Happening.lasting]
    rw [List.map_cons, ← List.singleton_append, after_append, hfirst, ih]
    rfl

/-- A scope that joins a transaction counts for nothing by itself. -/
theorem after_joined (h : k.isOpen = true) (returned : Bool) (inside : List Happening) :
    k.after [.scope returned inside] = k.after inside := by
  simp [after, h, Happening.statementsAll, Happening.statements]

/-- What ran in a scope that returned lasts, and what ran in one that failed is undone. -/
theorem concluded_after_begun (hk : k.Settled) (h : k.isOpen = false) (returned : Bool)
    (inside : List Happening) :
    (if returned then (k.begun.after inside).committed else (k.begun.after inside).rolledBack) =
      k.after [.scope returned inside] := by
  have hpending := hk h
  cases returned <;>
    simp [after, begun, committed, rolledBack, h, hpending, Happening.lastingAll,
      Happening.lasting]

end Books

variable {L : Type} [Connection L]

namespace Session

/-- The statements that ran between two moments of a session: each is reported as soon as it has not
failed, and only then. -/
def executed (s t : Session L) : List String :=
  LogEvent.statements (t.line.log.drop s.line.log.length)

end Session

namespace Block

/-- Whether a call runs its steps in a transaction. -/
def isScope : Block → Bool
  | transaction | newTransaction _ => true
  | _ => false

end Block

namespace Step

mutual

/-- What happens in a step. -/
def happenings : Step → Receiver → Session L → List Happening
  | plain site action, here, s =>
    (s.executed (run (plain site action) here s).2).map .statement
  | block site b body, here, s =>
    match (b.enter site here).run ⟨s, none⟩ with
    | (.error _, _) => []
    | (.ok receiver, fr) =>
      let inside := happeningsAll body receiver fr.session
      if b.isScope then [.scope (run (block site b body) here s).1.outcome.isOk inside] else inside

/-- What happens in steps, until one of them ends them. -/
def happeningsAll : List Step → Receiver → Session L → List Happening
  | [], _, _ => []
  | step :: rest, here, s =>
    let r := run step here s
    happenings step here s ++
      match stops step r.1 with
      | some _ => []
      | none => happeningsAll rest here r.2

end

/-- Steps that run for a receiver from a session come, outside of the scopes among them, through a
session, and so much has happened then. -/
inductive Rests : List Step → Receiver → Session L → List Happening → Session L → Prop
  /-- Before the first step. -/
  | start {steps : List Step} {here : Receiver} {s : Session L} : Rests steps here s [] s
  /-- After the first step, whatever it came to. -/
  | after {step : Step} {rest : List Step} {here : Receiver} {s : Session L} :
    Rests (step :: rest) here s (happenings step here s) (run step here s).2
  /-- Behind a first step that does not end the steps. -/
  | behind {step : Step} {rest : List Step} {here : Receiver} {s t : Session L}
    {past : List Happening} (hgoes : stops step (run step here s).1 = none)
    (h : Rests rest here (run step here s).2 past t) :
    Rests (step :: rest) here s (happenings step here s ++ past) t
  /-- Inside a first step that is no scope and has been entered. -/
  | inside {site : Site} {b : Block} {body rest : List Step} {here receiver : Receiver}
    {s t : Session L} {fr : Frame L} {past : List Happening} (hscope : b.isScope = false)
    (henter : (b.enter site here).run ⟨s, none⟩ = (.ok receiver, fr))
    (h : Rests body receiver fr.session past t) : Rests (.block site b body :: rest) here s past t

/-- What happens in a script, and the session it ends with. -/
def played (steps : List Step) (s : Session L) : List Happening × Session L :=
  steps.foldl
    (fun (past, s) step => (past ++ happenings step (.builder 0) s, (run step (.builder 0) s).2))
    ([], s)

/-- A script, which goes on behind steps that failed, comes through a session outside of its scopes,
and so much has happened then. -/
def ComesToRest (steps : List Step) (s : Session L) (past : List Happening) (t : Session L) :
    Prop :=
  ∃ front back recent, steps = front ++ back ∧ past = (played front s).1 ++ recent ∧
    Rests back (.builder 0) (play front s).2 recent t

section Block

variable {site : Site} {here receiver : Receiver} {b : Block} {body : List Step} {s : Session L}
  {fr : Frame L}

/-- What happens in a block that is entered is what happens inside, as one scope if the block is
one. -/
theorem happenings_entered
    (henter : (b.enter site here).run ⟨s, none⟩ = (.ok receiver, fr)) :
    happenings (.block site b body) here s =
      let inside := happeningsAll body receiver fr.session
      if b.isScope then [.scope (run (.block site b body) here s).1.outcome.isOk inside]
      else inside := by
  rw [happenings, henter]

/-- Nothing happens in a block that is not entered. -/
theorem happenings_refused {failure : Failure}
    (henter : (b.enter site here).run ⟨s, none⟩ = (.error failure, fr)) :
    happenings (.block site b body) here s = [] := by
  rw [happenings, henter]

end Block

theorem played_concat (front : List Step) (step : Step) (s : Session L) :
    played (front ++ [step]) s =
      let p := played front s
      (p.1 ++ happenings step (.builder 0) p.2, (run step (.builder 0) p.2).2) := by
  rw [played, List.foldl_append]
  rfl

/-- Telling what happens does not change the run. -/
theorem played_session (steps : List Step) (s : Session L) :
    (played steps s).2 = (play steps s).2 := by
  induction steps using List.reverseRecOn with
  | nil => rfl
  | append_singleton front step ih =>
    rw [played_concat, play_concat]
    dsimp only
    rw [ih]

end Step

end BoundSql
