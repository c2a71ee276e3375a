import BoundSql.Proofs.Connection.Drivers
import BoundSql.Proofs.Session.Alike
import BoundSql.Proofs.Session.Run

/-!
# Bound values and the log

Two runs of scripts that are the same but for the values that they bind, over drivers that answer
alike, go in lockstep: each step answers in both or fails in both with the same failure, in scopes
nested to any depth. So what is reported is the same, event by event.
-/

namespace BoundSql

open Attempt Session

variable {L L' : Type} [Connection L] [Connection L'] {k : Lockstep L L'}

/-- Steps that are the same but for the values that they bind. -/
inductive Step.Alike : Step → Step → Prop
  | plain (site : Site) {action action' : Action} (h : action.Alike action') :
    Alike (.plain site action) (.plain site action')
  | block (site : Site) (b : Block) {body body' : List Step} (h : List.Forall₂ Alike body body') :
    Alike (.block site b body) (.block site b body')

/-- Frames with sessions in lockstep. -/
def Frame.Alike (k : Lockstep L L') (fr : Frame L) (fr' : Frame L') : Prop :=
  Session.Alike k fr.session fr'.session

/-- What runs alike in a session runs alike inside a block. -/
theorem Frame.parallel_onSession {α β : Type} {Q : α → β → Prop} {act : Attempt (Session L) α}
    {act' : Attempt (Session L') β} (h : Parallel (Session.Alike k) Q act act') :
    Parallel (Frame.Alike k) Q (act.within sessionPart) (act'.within sessionPart) :=
  .within (R := Frame.Alike k) (fun _ _ hfr => hfr) (fun _ _ _ _ _ hs => hs) h

/-- A transaction scope runs in parallel when its body does. -/
theorem Frame.parallel_transactional (absent : Failure) {α β : Type} {Q : α → β → Prop}
    {body : Attempt (Frame L) α} {body' : Attempt (Frame L') β}
    (h : Parallel (Frame.Alike k) Q body body') :
    Parallel (Frame.Alike k) Q (Line.transactional absent linePart body)
      (Line.transactional absent linePart body') :=
  k.parallel_transactional (fun _ _ hfr => hfr.line) (fun _ _ _ _ hfr hl => hfr.setLine hl) absent h

namespace Block

/-- A marker is added to both lists. -/
theorem alike_addToken (n : Nat) (token : Token) {fr : Frame L} {fr' : Frame L'}
    (h : Frame.Alike k fr fr') : Frame.Alike k (addToken n token fr) (addToken n token fr') :=
  h.setQuery n ((h.builder n).query.addWhere rfl)

/-- A call that runs steps inside it runs in parallel when the steps do. -/
theorem parallel_around (site : Site) (here : Receiver) (b : Block)
    {body : Receiver → Attempt (Frame L) Unit} {body' : Receiver → Attempt (Frame L') Unit}
    (count count' : Nat)
    (hbody : ∀ receiver, Parallel (Frame.Alike k) Eq (body receiver) (body' receiver)) :
    Parallel (Frame.Alike k) AnyAnswers (b.around site here body count)
      (b.around site here body' count') := by
  cases b with
  | group connector =>
    refine (Frame.parallel_onSession (alike_receiverOf site here)).bind ?_
    rintro receiver _ rfl
    refine .ofExcept_bind fun connector _ => ?_
    refine Parallel.bind (.update fun _ _ h => alike_addToken _ _ h) fun _ _ _ => ?_
    refine Parallel.bind (.ensuring (fun _ _ h => alike_addToken _ _ h) (hbody _)) fun _ _ _ => ?_
    exact Frame.parallel_onSession (alike_returned receiver)
  | transaction =>
    refine (Frame.parallel_onSession (alike_needBuilder site here)).bind ?_
    rintro n _ rfl
    exact (Frame.parallel_transactional _ (hbody _)).bind fun _ _ _ => .pure trivial
  | preserve =>
    refine (Frame.parallel_onSession (alike_needBuilder site here)).bind ?_
    rintro n _ rfl
    refine Parallel.bind (.preserving (fun _ _ h => h.builder n) (fun _ _ _ _ h hb => ?_)
      (hbody _)) fun _ _ _ => .pure trivial
    exact h.setBuilder n hb
  | newTransaction register =>
    refine Parallel.bind (Frame.parallel_transactional (Q := Eq) _ ?_) fun _ _ _ => .pure trivial
    refine (Frame.parallel_onSession (alike_newBuilder register)).bind ?_
    rintro n _ rfl
    exact hbody _

end Block

namespace Step

/-- Steps that are alike stand at the same place. -/
theorem Alike.site {step step' : Step} (h : step.Alike step') : step'.site = step.site := by
  cases h <;> rfl

/-- Steps that agree stop a run at the same place. -/
theorem Alike.stops {step step' : Step} (h : step.Alike step') {entry entry' : Entry}
    (hout : Agrees AnyAnswers entry.outcome entry'.outcome) :
    Step.stops step' entry' = Step.stops step entry := by
  unfold Step.stops
  rw [h.site]
  generalize entry.outcome = outcome at hout ⊢
  generalize entry'.outcome = outcome' at hout ⊢
  cases hout with
  | ok _ => rfl
  | error failure => rfl

mutual

/-- A step keeps two sessions in lockstep, and comes to the same failure in both if it fails. -/
theorem alike_run (step : Step) {step' : Step} (h : step.Alike step') (here : Receiver)
    {s : Session L} {s' : Session L'} (hs : Session.Alike k s s') :
    Agrees AnyAnswers (step.run here s).1.outcome (step'.run here s').1.outcome ∧
      Session.Alike k (step.run here s).2 (step'.run here s').2 := by
  match step, h with
  | .plain site action, .plain _ h => exact h.parallel_perform site here s s' hs
  | .block site b body, @Alike.block _ _ _ body' h =>
    have hbody : ∀ receiver, Parallel (Frame.Alike k) Eq (inside (L := L) body receiver)
        (inside (L := L') body' receiver) := by
      intro receiver fr fr' hfr
      obtain ⟨hfailure, hend⟩ := alike_runAll body h receiver hfr
      refine ⟨?_, hend⟩
      dsimp only [Attempt.run, inside]
      rw [hfailure]
      exact .refl _
    have haround := Block.parallel_around site here b body.length body'.length hbody
    obtain ⟨hout, hend⟩ := haround ⟨s, none⟩ ⟨s', none⟩ hs
    rw [run_block, run_block]
    exact ⟨hout, hend⟩

/-- Steps keep two sessions in lockstep, and are stopped by the same failure in both if they are. -/
theorem alike_runAll (steps : List Step) {steps' : List Step}
    (h : List.Forall₂ Step.Alike steps steps') (here : Receiver) {s : Session L} {s' : Session L'}
    (hs : Session.Alike k s s') :
    (runAll steps' here s').2.1 = (runAll steps here s).2.1 ∧
      Session.Alike k (runAll steps here s).2.2 (runAll steps' here s').2.2 := by
  match steps, h with
  | [], .nil => exact ⟨rfl, hs⟩
  | step :: rest, .cons hstep hrest =>
    obtain ⟨hout, hmid⟩ := alike_run step hstep here hs
    rw [runAll_cons, runAll_cons]
    dsimp only
    rw [hstep.stops hout]
    cases stops step (run step here s).1 with
    | some failure => exact ⟨rfl, hmid⟩
    | none => exact alike_runAll rest hrest here hmid

end

/-- A script keeps two sessions in lockstep. -/
theorem alike_play {steps steps' : List Step} (h : List.Forall₂ Step.Alike steps steps')
    {s : Session L} {s' : Session L'} (hs : Session.Alike k s s') :
    Session.Alike k (play steps s).2 (play steps' s').2 := by
  refine List.rel_foldl (P := fun (p : List Entry × Session L) (p' : List Entry × Session L') =>
    Session.Alike k p.2 p'.2) ?_ hs h
  rintro ⟨_, s⟩ ⟨_, s'⟩ hs step step' hstep
  exact (alike_run step hstep (.builder 0) hs).2

/-- Bound values do not reach the log: two scripts that are the same but for the values that they
bind, over connections that answer every call alike, report the same events, with the same texts,
numbers and failures, in the same order. -/
theorem log_play (k : Lockstep L L') {link : Option L} {link' : Option L'}
    (hlink : Option.Rel k.link link link') {steps steps' : List Step}
    (h : List.Forall₂ Step.Alike steps steps') (settings : Settings) (dialect : Dialect)
    (tables : TableSource) (trace trace' : Bool) :
    (play steps' (start settings dialect link' tables trace')).2.line.log =
      (play steps (start settings dialect link tables trace)).2.line.log :=
  (alike_play h (alike_start k settings dialect hlink tables trace trace')).line.log

/-- A statement in a transaction, which then fails for a row that is too long, and a page: the same
six events are reported with two values and with two others, a rollback with its failure among
them. -/
theorem log_play_failing :
    let here : Site := ⟨none, false, false⟩
    let column := Value.text "a"
    let steps := fun v w : Value =>
      [Step.plain here (.clause (.table (.text "t") none)),
        .block here .transaction
          [.plain here (.clause (.insert (.map [(column, v)]))),
            .plain here (.builder .execute),
            .plain here (.clause (.insertColumns (.list [column]))),
            .plain here (.clause (.values (.list [v, w])))],
        .plain here (.clause (.select none)),
        .plain here (.clause (.condition (.compare column (some v) none none))),
        .plain here (.builder (.paginate none none)),
        .plain here (.statement (.bind "p1" w))]
    let rolledBack := fun e : LogEvent =>
      match e with
      | .transactionRollback failure => failure.message?
      | _ => none
    let one : CursorOutcome := ⟨true, none, some [.text "cnt"], [[.int 1]], none, .int 1⟩
    let link : CursorLink := ⟨.fresh false [], [one, one, one], .int 1, false⟩
    let log := fun v w : Value =>
      (play (steps v w) (start .standard (.ofTarget .sqlite) (some link) .nothing false)).2.line.log
    log (.text "secret") .null = log (.int 1) (.int 2) ∧
      (log (.int 1) (.int 2)).map LogEvent.level =
        [.debug, .debug, .warning, .debug, .debug, .debug] ∧
      (log (.int 1) (.int 2)).filterMap rolledBack =
        ["VALUES count (2) does not match INSERT column count (1)."] := by
  intro here column steps rolledBack one link log
  have hlink : Option.Rel CursorLink.lockstep.link (some link) (some link) :=
    .some ⟨.refl _, rfl⟩
  have hsteps : List.Forall₂ Step.Alike (steps (.int 1) (.int 2)) (steps (.text "secret") .null) :=
    .cons (.plain here (.same _)) <| .cons (.block here .transaction
        (.cons (.plain here (.clause rfl)) <| .cons (.plain here (.same _)) <|
          .cons (.plain here (.same _)) <| .cons (.plain here (.clause rfl)) .nil)) <|
      .cons (.plain here (.same _)) <| .cons (.plain here (.clause rfl)) <|
        .cons (.plain here (.same _)) <| .cons (.plain here (.bind "p1" _ _)) .nil
  exact ⟨log_play CursorLink.lockstep hlink hsteps .standard (.ofTarget .sqlite) .nothing
    false false, by decide +kernel, by decide +kernel⟩

end Step

end BoundSql
