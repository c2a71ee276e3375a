import BoundSql.Proofs.Condition.Balance
import BoundSql.Proofs.Session.Moments
import BoundSql.Proofs.Session.Steady
import Mathlib.Data.List.Induction

/-!
# What runs uphold

A run consists of calls that run no other steps and of what goes on around steps: groups are marked,
transactions begin and end, and builders are made and put back. A property of what a session stores
that is kept by all of this holds at every moment of a run. Which calls a script may make is left
open here, so a property is upheld by the scripts whose calls all keep it.
-/

namespace BoundSql

open Attempt

variable {L : Type} [Connection L]

namespace Line

variable {σ α : Type} {P : σ → Prop} (absent : Failure) {line : Part σ (Line L)}
  (hline : ∀ {β : Type} (act : Attempt (Line L) β), Keeps P (act.within line))
include hline

/-- Ending a transaction is a matter of the line. -/
theorem keeps_conclude (result : Except Failure α) : Keeps P (conclude absent line result) := by
  cases result with
  | ok a => exact (hline _).bind fun _ => .pure a
  | error f => exact (hline _).bind fun _ => .fail f

/-- A transaction around a body keeps what the body keeps. -/
theorem keeps_transactional {body : Attempt σ α} (h : Keeps P body) :
    Keeps P (transactional absent line body) := by
  refine (hline _).bind fun joins => ?_
  cases joins with
  | true => exact h
  | false => exact (hline _).bind fun _ => h.outcome.bind (keeps_conclude absent hline)

/-- A transaction that was entered ends with what its body ends with. -/
theorem holds_transactional {body : Attempt σ α} {s t : σ}
    (henter : (enter absent line).run s = (.ok (), t)) (h : P (body.run t).2) :
    P ((transactional absent line body).run s).2 := by
  obtain ⟨joins, mid, hasked, henter⟩ := run_bind_eq_ok henter
  rw [transactional, run_bind, hasked]
  cases joins with
  | true =>
    cases henter
    exact h
  | false =>
    simp only [Bool.false_eq_true, if_false] at henter ⊢
    rw [run_bind, henter]
    exact keeps_conclude absent hline (body.run t).1 (body.run t).2 h

theorem keeps_enter : Keeps P (enter absent line) := by
  refine (hline _).bind fun joins => ?_
  cases joins with
  | true => exact .pure ()
  | false => exact hline (signal absent Connection.begin .transactionBegin)

end Line

/-- A property of what a session stores that is kept by everything of which a run consists, as long
as its calls that run no other steps are allowed ones. -/
structure Session.Upheld (P : Session L → Prop) (allowed : Action → Prop) : Prop
    extends Session.OfStore P where
  /-- It is kept by allowed calls, -/
  action : ∀ (site : Site) (here : Receiver) {action : Action}, allowed action →
    Keeps P (action.perform site here)
  /-- by markers among the conditions on rows, -/
  marker : ∀ (n : Nat) {token : Token}, token.IsMarker →
    Keeps P ((Attempt.update fun q => { q with wheres := q.wheres ++ [token] }).within
      (Session.queryPart n))
  /-- and by builders that are put back to where they were at an earlier moment. -/
  putBack : ∀ (n : Nat) {s t : Session L}, P s → P t →
    P ((Session.builderPart n).put ((t.builder n).restore (s.builder n).snapshot) t)

variable {P : Session L → Prop} {allowed : Action → Prop}

namespace Block

/-- A property of the session inside a frame. -/
abbrev Holds (P : Session L → Prop) (fr : Frame L) : Prop := P fr.session

/-- What happens on the line keeps a property of the store. -/
theorem holds_within_line (h : Session.OfStore P) {α : Type} (act : Attempt (Line L) α) :
    Keeps (Holds P) (act.within Frame.linePart) :=
  Keeps.within_other (P := Holds P) (fun fr _ hfr => h.others fr.session _ rfl rfl rfl rfl hfr) act

/-- Finding a builder keeps everything. -/
theorem holds_needBuilder (site : Site) (here : Receiver) :
    Keeps (Holds P) ((Session.needBuilder site here).within Frame.sessionPart) :=
  fun fr hfr => Session.keeps_needBuilder site here fr.session hfr

theorem holds_receiverOf (site : Site) (here : Receiver) :
    Keeps (Holds P) ((Session.receiverOf site here).within Frame.sessionPart) :=
  fun fr hfr => Session.keeps_receiverOf site here fr.session hfr

/-- A new builder keeps what fresh builders have. -/
theorem holds_newBuilder (h : Session.OfStore P) (register : String) :
    Keeps (Holds P) ((Session.newBuilder register).within Frame.sessionPart) :=
  fun fr hfr => h.newBuilder register fr.session hfr

/-- A marker is an action that is allowed whenever groups are. -/
theorem holds_addToken (h : Session.Upheld P allowed) (n : Nat) (token : Token)
    (htoken : token.IsMarker) (fr : Frame L) (hfr : Holds P fr) : Holds P (addToken n token fr) :=
  h.marker n htoken fr.session hfr

section Ends

variable (h : Session.OfStore P)
  (hadd : ∀ n (token : Token), token.IsMarker → ∀ fr : Frame L, Holds P fr →
    Holds P (addToken n token fr))
include h hadd

/-- Entering a call keeps a property of the store that markers keep. -/
theorem holds_enter (site : Site) (here : Receiver) (b : Block) :
    Keeps (Holds P) (b.enter site here) := by
  have henter : ∀ absent, Keeps (Holds P) (Line.enter absent Frame.linePart) :=
    fun absent => Line.keeps_enter absent (holds_within_line h)
  cases b with
  | group connector =>
    refine (holds_receiverOf site here).bind fun receiver => ?_
    refine Keeps.bind (.ofExcept _) fun connector => ?_
    exact Keeps.bind (.update (hadd _ _ trivial)) fun _ => .pure _
  | transaction =>
    exact (holds_needBuilder site here).bind fun n => (henter _).bind fun _ => .pure _
  | preserve => exact (holds_needBuilder site here).bind fun n => .pure _
  | newTransaction register =>
    exact (henter _).bind fun _ => (holds_newBuilder h register).bind fun n => .pure _

/-- A call that was entered, and puts nothing back, ends with what its steps end with. -/
theorem holds_left {b : Block} (hb : b ≠ .preserve) {site : Site} {here receiver : Receiver}
    {body : Receiver → Attempt (Frame L) Unit} {fr fr' : Frame L}
    (henter : (b.enter site here).run fr = (.ok receiver, fr'))
    (hbody : Holds P ((body receiver).run fr').2) (count : Nat) :
    Holds P ((b.around site here body count).run fr).2 := by
  cases b with
  | group connector =>
    obtain ⟨found, mid, hfound, hrest⟩ := run_bind_eq_ok henter
    obtain ⟨c, hconnector, hrest⟩ := run_ofExcept_bind_eq_ok hrest
    cases hrest
    rw [around, run_bind, hfound]
    dsimp only
    rw [hconnector, run_bind, run_ofExcept]
    dsimp only
    rw [run_bind, run_update]
    have hclosed : Holds P (((body (.group found.number)).ensuring
        (addToken found.number .closing)).run (addToken found.number (.opening c) mid)).2 :=
      hadd found.number .closing trivial _ hbody
    have hreturned : Keeps (Holds P) ((Session.returned found).within Frame.sessionPart) :=
      fun t ht => Session.keeps_returned found t.session ht
    exact holds_bind hclosed fun _ t _ ht => hreturned t ht
  | transaction =>
    obtain ⟨n, mid, hfound, hrest⟩ := run_bind_eq_ok henter
    obtain ⟨_, mid', hline, hrest⟩ := run_bind_eq_ok hrest
    cases hrest
    rw [around, run_bind, hfound]
    have hscope := Line.holds_transactional .noConnection (holds_within_line h) hline hbody
    exact holds_bind hscope fun _ _ _ ht => ht
  | preserve => exact absurd rfl hb
  | newTransaction register =>
    obtain ⟨_, mid, hline, hrest⟩ := run_bind_eq_ok henter
    obtain ⟨n, mid', hmade, hrest⟩ := run_bind_eq_ok hrest
    cases hrest
    rw [around]
    refine holds_bind (Line.holds_transactional .absentCall (holds_within_line h) hline ?_)
      fun _ _ _ ht => ht
    rw [run_bind, hmade]
    exact hbody

end Ends

/-- A call with steps inside it keeps what the steps keep. -/
theorem holds_around (h : Session.Upheld P allowed) (site : Site) (here : Receiver) (b : Block)
    {body : Receiver → Attempt (Frame L) Unit}
    (hbody : ∀ receiver, Keeps (Holds P) (body receiver)) (count : Nat) :
    Keeps (Holds P) (b.around site here body count) := by
  intro fr hfr
  have hentered := holds_enter h.toOfStore (holds_addToken h) site here b fr hfr
  obtain ⟨leave, hleave⟩ := surrounds_around (L := L) site here count b fr
  rcases henter : (b.enter site here).run fr with ⟨outcome, fr'⟩
  rw [henter] at hentered
  cases outcome with
  | error failure =>
    rw [hleave, henter]
    exact hentered
  | ok receiver =>
    have hend := hbody receiver fr' hentered
    by_cases hb : b = .preserve
    · subst hb
      obtain ⟨n, mid, hfound, hrest⟩ := run_bind_eq_ok henter
      cases hrest
      have hback : Holds P ((Attempt.preserving (Frame.builderPart n) (body (.builder n))).run
          fr').2 := h.putBack n hentered hend
      rw [around, run_bind, hfound]
      exact holds_bind hback fun _ _ _ ht => ht
    · exact holds_left h.toOfStore (holds_addToken h) hb henter hend count

end Block

namespace Step

mutual

/-- The calls of a step that run no other steps. -/
def actions : Step → List Action
  | plain _ action => [action]
  | block _ _ body => actionsAll body

/-- The calls of steps that run no other steps. -/
def actionsAll : List Step → List Action
  | [] => []
  | step :: rest => actions step ++ actionsAll rest

end

theorem actionsAll_append (front back : List Step) :
    actionsAll (front ++ back) = actionsAll front ++ actionsAll back := by
  induction front with
  | nil => rfl
  | cons step rest ih => simp only [List.cons_append, actionsAll, ih, List.append_assoc]

end Step

namespace Session.Upheld

open Step

variable {here : Receiver} {s t : Session L}

mutual

/-- A step keeps what is upheld if all its calls are allowed. -/
theorem run (h : Upheld P allowed) (step : Step) (hstep : ∀ action ∈ step.actions, allowed action)
    {here : Receiver} {s : Session L} (hs : P s) : P (step.run here s).2 := by
  match step with
  | .plain site action => exact h.action site here (hstep action List.mem_cons_self) s hs
  | .block site b body =>
    rw [run_block]
    refine Block.holds_around h site here b ?_ body.length ⟨s, none⟩ hs
    exact fun receiver fr hfr => h.runAll body hstep hfr

/-- Steps keep what is upheld, wherever they end. -/
theorem runAll (h : Upheld P allowed) (steps : List Step)
    (hsteps : ∀ action ∈ actionsAll steps, allowed action) {here : Receiver} {s : Session L}
    (hs : P s) : P (Step.runAll steps here s).2.2 := by
  match steps with
  | [] => exact hs
  | step :: rest =>
    obtain ⟨hstep, hrest⟩ := List.forall_mem_append.mp hsteps
    have hmid : P (step.run here s).2 := h.run step hstep hs
    rw [runAll_cons]
    dsimp only
    cases stops step (step.run here s).1 with
    | some failure => exact hmid
    | none => exact h.runAll rest hrest hmid

end

/-- What is upheld holds at every moment of a run. -/
theorem passes (h : Upheld P allowed) {steps : List Step} {running : List Nat}
    (hpasses : Passes steps here s running t)
    (hsteps : ∀ action ∈ actionsAll steps, allowed action) (hs : P s) : P t := by
  induction hpasses with
  | start => exact hs
  | after => exact h.run _ (List.forall_mem_append.mp hsteps).1 hs
  | behind _ _ ih =>
    obtain ⟨hstep, hrest⟩ := List.forall_mem_append.mp hsteps
    exact ih hrest (h.run _ hstep hs)
  | @inside site b _ _ here _ s _ _ _ henter _ ih =>
    have hentered := Block.holds_enter h.toOfStore (Block.holds_addToken h) site here b ⟨s, none⟩ hs
    rw [henter] at hentered
    exact ih (List.forall_mem_append.mp hsteps).1 hentered

/-- A script of allowed actions keeps the property to its end. -/
theorem play (h : Upheld P allowed) (steps : List Step)
    (hsteps : ∀ action ∈ actionsAll steps, allowed action) (hs : P s) :
    P (Step.play steps s).2 := by
  induction steps using List.reverseRecOn with
  | nil => exact hs
  | append_singleton front step ih =>
    rw [actionsAll_append, List.forall_mem_append] at hsteps
    rw [play_concat]
    exact h.run step (List.forall_mem_append.mp hsteps.2).1 (ih hsteps.1)

/-- What is upheld holds at every moment of a script. -/
theorem reaches (h : Upheld P allowed) {steps : List Step} {running : List Nat}
    (hreaches : Reaches steps s running t)
    (hsteps : ∀ action ∈ actionsAll steps, allowed action) (hs : P s) : P t := by
  obtain ⟨front, back, rfl, hpasses⟩ := hreaches
  rw [actionsAll_append, List.forall_mem_append] at hsteps
  exact h.passes hpasses hsteps.2 (h.play front hsteps.1 hs)

end Session.Upheld

end BoundSql
