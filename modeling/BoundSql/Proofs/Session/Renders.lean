import BoundSql.Proofs.Desk.Renders
import BoundSql.Proofs.Session.Moments
import Mathlib.Data.List.Induction

/-!
# What a run renders

A call on a builder renders at most one statement, and a call with steps inside it renders what they
do. So by each moment of a run, those inside of its calls included, certain renders have been made
one after another, whether they and the calls that made them came to an answer or failed.
-/

namespace BoundSql

variable {L : Type} [Connection L]

/-- A render of a builder. -/
structure Render where
  /-- The number of the builder. -/
  number : Nat
  /-- What it came to. -/
  outcome : Except Failure Compiled
  /-- The bindings it left, also where it failed. -/
  bindings : Bindings

namespace Render

/-- A render as what it came to and the builder it left. -/
def of (n : Nat) (r : Except Failure Compiled × Builder) : Render := ⟨n, r.1, r.2.binder.params⟩

/-- The names it bound. -/
def names (r : Render) : List String := Entries.keys r.bindings

/-- The renders of one builder. -/
def ofBuilder (n : Nat) (past : List Render) : List Render := past.filter (·.number = n)

variable (n : Nat) (past : List Render) (r : Except Failure Compiled × Builder)

theorem ofBuilder_concat_self : ofBuilder n (past ++ [of n r]) = ofBuilder n past ++ [of n r] := by
  simp [ofBuilder, of]

theorem ofBuilder_concat_other {m : Nat} (h : m ≠ n) :
    ofBuilder m (past ++ [of n r]) = ofBuilder m past := by
  simp [ofBuilder, of, Ne.symm h]

end Render

/-- What a call on a builder renders. -/
def BuilderCall.renders (n : Nat) (b : Builder) (call : BuilderCall) : List Render :=
  (call.render? b).toList.map (Render.of n)

namespace Action

/-- Whether a call puts bindings and counter of a builder back to where they were. -/
def rewinds : Action → Bool
  | builder call => call.rewinds
  | _ => false

/-- What a call that runs no other steps renders. -/
def renders (site : Site) (here : Receiver) (s : Session L) : Action → List Render
  | builder call =>
    match (Session.needBuilder site here).run s with
    | (.ok n, _) => call.renders n (s.builder n)
    | (.error _, _) => []
  | _ => []

end Action

namespace Block

/-- Whether a call puts bindings and counter of a builder back to where they were. -/
def rewinds : Block → Bool
  | preserve => true
  | _ => false

end Block

namespace Step

mutual

/-- Whether a step, or one inside it, puts bindings and counter of a builder back to where they
were. -/
def rewinds : Step → Bool
  | plain _ action => action.rewinds
  | block _ b body => b.rewinds || rewindsAny body

/-- Whether one of some steps, or one inside them, puts bindings and counter of a builder back. -/
def rewindsAny : List Step → Bool
  | [] => false
  | step :: rest => rewinds step || rewindsAny rest

end

theorem rewindsAny_append {front back : List Step} :
    rewindsAny (front ++ back) = false ↔ rewindsAny front = false ∧ rewindsAny back = false := by
  induction front with
  | nil => simp [rewindsAny]
  | cons step rest ih => simp [rewindsAny, ih, and_assoc]

mutual

/-- What a step renders. -/
def renders : Step → Receiver → Session L → List Render
  | plain site action, here, s => action.renders site here s
  | block site b body, here, s =>
    match (b.enter site here).run ⟨s, none⟩ with
    | (.ok receiver, fr) => rendersAll body receiver fr.session
    | (.error _, _) => []

/-- What steps render, until one of them ends them. -/
def rendersAll : List Step → Receiver → Session L → List Render
  | [], _, _ => []
  | step :: rest, here, s =>
    let r := run step here s
    renders step here s ++
      match stops step r.1 with
      | some _ => []
      | none => rendersAll rest here r.2

end

/-- Steps that run for a receiver from a session come through a session, and these renders have been
made by then. -/
inductive Visits : List Step → Receiver → Session L → List Render → Session L → Prop
  /-- Before the first step. -/
  | start {steps : List Step} {here : Receiver} {s : Session L} : Visits steps here s [] s
  /-- After the first step, whatever it came to. -/
  | after {step : Step} {rest : List Step} {here : Receiver} {s : Session L} :
    Visits (step :: rest) here s (renders step here s) (run step here s).2
  /-- Behind a first step that does not end the steps. -/
  | behind {step : Step} {rest : List Step} {here : Receiver} {s t : Session L}
    {past : List Render} (hgoes : stops step (run step here s).1 = none)
    (h : Visits rest here (run step here s).2 past t) :
    Visits (step :: rest) here s (renders step here s ++ past) t
  /-- Inside a first step that has been entered. -/
  | inside {site : Site} {b : Block} {body rest : List Step} {here receiver : Receiver}
    {s t : Session L} {fr : Frame L} {past : List Render}
    (henter : (b.enter site here).run ⟨s, none⟩ = (.ok receiver, fr))
    (h : Visits body receiver fr.session past t) : Visits (.block site b body :: rest) here s past t

/-- What a script renders. -/
def rendersPlayed : List Step → Session L → List Render
  | [], _ => []
  | step :: rest, s =>
    renders step (.builder 0) s ++ rendersPlayed rest (run step (.builder 0) s).2

/-- A script, which goes on behind steps that failed, comes through a session, and these renders
have been made by then. -/
def Arrives (steps : List Step) (s : Session L) (past : List Render) (t : Session L) : Prop :=
  ∃ front back recent, steps = front ++ back ∧ past = rendersPlayed front s ++ recent ∧
    Visits back (.builder 0) (play front s).2 recent t

/-- A script goes on behind its first step, whatever came of it. -/
theorem play_cons (step : Step) (rest : List Step) (s : Session L) :
    (play (step :: rest) s).2 = (play rest (run step (.builder 0) s).2).2 := by
  induction rest using List.reverseRecOn with
  | nil => rfl
  | append_singleton front last ih =>
    rw [← List.cons_append, play_concat, play_concat]
    dsimp only
    rw [ih]

end Step

end BoundSql
