import BoundSql.Connection.Direct
import BoundSql.Proofs.Query.Calls
import BoundSql.Proofs.Session.Run
import BoundSql.Proofs.Statement.Image

/-!
# Programs with replaced values

Two runs of a program that builds queries and renders them, the second with every value to be bound
replaced by its image, stay step by step images of each other: the same step fails with the same
failure, and every text that is rendered is the same text with the images of its bindings.
-/

namespace BoundSql

/-- Whether an action only builds queries, renders them, makes builders or fails on its own. -/
def Action.builds : Action → Bool
  | .clause _ | .raise _ => true
  | .builder .toSql | .builder .compile | .builder .compileCount => true
  | .database (.query _) | .database (.table _ _ _) => true
  | _ => false

/-- The action with the values to be bound replaced by their images. -/
def Action.mapValues (f : Value → Value) : Action → Action
  | .clause call => .clause (call.mapValues f)
  | action => action

namespace Step

mutual

/-- Whether a step only builds and renders queries, in groups of conditions nested to any depth. -/
def builds : Step → Bool
  | plain _ action => action.builds
  | block _ (.group _) body => buildsAll body
  | block _ _ _ => false

/-- Whether steps only build and render queries. -/
def buildsAll : List Step → Bool
  | [] => true
  | step :: rest => builds step && buildsAll rest

end

mutual

/-- The step with the values to be bound replaced by their images. -/
def mapValues (f : Value → Value) : Step → Step
  | plain site action => plain site (action.mapValues f)
  | block site b body => block site b (mapValuesAll f body)

/-- The steps with the values to be bound replaced by their images. -/
def mapValuesAll (f : Value → Value) : List Step → List Step
  | [] => []
  | step :: rest => mapValues f step :: mapValuesAll f rest

end

/-- The values of a step do not change where it stands. -/
@[simp] theorem site_mapValues (f : Value → Value) (step : Step) :
    (step.mapValues f).site = step.site := by
  cases step <;> rfl

end Step

/-- The same answer with the images of its bindings. -/
inductive Answer.Image (f : Value → Value) : Answer → Answer → Prop
  | text (s : String) : Image f (.text s) (.text s)
  | compiled (c : Compiled) : Image f (.compiled c) (.compiled (c.mapValues f))
  | builder {b b' : Builder} (h : b.Image f b') : Image f (.builder b) (.builder b')
  | receiver {shown shown' : Option Builder} (h : Option.Rel (Builder.Image f) shown shown') :
    Image f (.receiver shown) (.receiver shown')

/-- What a step came to, with the images of the bindings and otherwise the same. -/
inductive Entry.Image (f : Value → Value) : Entry → Entry → Prop
  | plain {outcome outcome' : Except Failure Answer}
      (h : Agrees (Answer.Image f) outcome outcome') : Image f ⟨outcome, none⟩ ⟨outcome', none⟩
  | block {outcome outcome' : Except Failure Answer}
      (h : Agrees (Answer.Image f) outcome outcome') {inner inner' : List Entry}
      (hinner : List.Forall₂ (Image f) inner inner') :
      Image f ⟨outcome, some inner⟩ ⟨outcome', some inner'⟩

variable {L : Type} [Connection L] {f : Value → Value}

open Attempt

namespace Session

/-- The same session with the images of its builders. -/
structure Image (f : Value → Value) (s s' : Session L) : Prop where
  /-- Every builder is an image. -/
  builders : List.Forall₂ (Builder.Image f) s.builders s'.builders
  /-- Nothing else differs. -/
  same : s' = { s with builders := s'.builders }

theorem image_start (settings : Settings) (dialect : Dialect) (link : Option L)
    (tables : TableSource) (trace : Bool) :
    Image f (start settings dialect link tables trace) (start settings dialect link tables trace) :=
  ⟨.cons (Builder.image_fresh dialect) .nil, rfl⟩

namespace Image

variable {s s' : Session L}

/-- An image reports as the session does. -/
theorem trace (h : Image f s s') : s'.trace = s.trace := by rw [h.same]

theorem registers (h : Image f s s') : s'.registers = s.registers := by rw [h.same]

theorem settings (h : Image f s s') : s'.settings = s.settings := by rw [h.same]

/-- The builders of a number are images of each other. -/
theorem builder (h : Image f s s') (n : Nat) : Builder.Image f (s.builder n) (s'.builder n) := by
  unfold Session.builder
  rw [h.settings]
  exact forall₂_getD h.builders (Builder.image_fresh _) n

/-- Setting builders that are images of each other keeps the sessions so. -/
theorem setBuilder (h : Image f s s') (n : Nat) {b b' : Builder} (hb : Builder.Image f b b') :
    Image f { s with builders := s.builders.set n b }
      { s' with builders := s'.builders.set n b' } :=
  ⟨forall₂_set h.builders hb n, by rw [h.same]⟩

/-- Setting queries that are images of each other keeps the sessions so. -/
theorem setQuery (h : Image f s s') (n : Nat) {q q' : Query} (hq : Query.Image f q q') :
    Image f ((queryPart n).put q s) ((queryPart n).put q' s') :=
  h.setBuilder n ⟨hq, (h.builder n).binder, (h.builder n).dialect⟩

end Image

/-- A register names the same builder. -/
theorem parallel_numberOf (register : String) :
    Parallel (Image (L := L) f) Eq (numberOf register) (numberOf register) := by
  refine Parallel.state.bind fun s s' h => ?_
  rw [h.registers]
  refine .ofOption _ ?_
  cases Entries.find? (· == ·) register s.registers with
  | none => exact .none
  | some n => exact .some rfl

/-- A call finds the same receiver. -/
theorem parallel_receiverOf (site : Site) (here : Receiver) :
    Parallel (Image (L := L) f) Eq (receiverOf site here) (receiverOf site here) := by
  unfold receiverOf
  cases site.register with
  | none => exact .pure rfl
  | some register =>
    refine Parallel.bind (parallel_numberOf register) ?_
    rintro n _ rfl
    exact .pure rfl

/-- A call that needs a builder finds the same one, or a group handle in both. -/
theorem parallel_needBuilder (site : Site) (here : Receiver) :
    Parallel (Image (L := L) f) Eq (needBuilder site here) (needBuilder site here) := by
  refine Parallel.bind (parallel_receiverOf site here) ?_
  rintro receiver _ rfl
  cases receiver with
  | builder n => exact .pure rfl
  | group n => exact .fail _

/-- A receiver answers with itself, or with the image of its builder. -/
theorem parallel_returned (receiver : Receiver) :
    Parallel (Image (L := L) f) (Answer.Image f) (returned receiver) (returned receiver) := by
  refine Parallel.state.bind fun s s' h => ?_
  cases receiver with
  | builder n =>
    refine .pure (.receiver ?_)
    rw [h.trace]
    split
    · exact .some (h.builder n)
    · exact .none
  | group n => exact .pure (.receiver .none)

/-- A call on a query runs in parallel inside sessions. -/
theorem parallel_within_query {α β : Type} {Q : α → β → Prop} (n : Nat)
    {act : Attempt Query α} {act' : Attempt Query β} (h : Parallel (Query.Image f) Q act act') :
    Parallel (Image (L := L) f) Q (act.within (queryPart n)) (act'.within (queryPart n)) :=
  .within (fun _ _ hs => (hs.builder n).query) (fun _ _ _ _ hs hq => hs.setQuery n hq) h

/-- A call on a builder runs in parallel inside sessions. -/
theorem parallel_within_builder {α β : Type} {Q : α → β → Prop} (n : Nat)
    {act : Attempt Builder α} {act' : Attempt Builder β}
    (h : Parallel (Builder.Image f) Q act act') :
    Parallel (Image (L := L) f) Q (act.within (builderPart n)) (act'.within (builderPart n)) :=
  .within (fun _ _ hs => hs.builder n) (fun _ _ _ _ hs hb => hs.setBuilder n hb) h

/-- A new builder is its own image. -/
theorem parallel_newBuilder (register : String) :
    Parallel (Image (L := L) f) Eq (newBuilder register) (newBuilder register) := by
  refine Parallel.state.bind fun s s' h => ?_
  rw [h.builders.length_eq]
  refine Parallel.bind (.update fun s s' h => ?_) fun _ _ _ => .pure rfl
  refine ⟨?_, by rw [h.same]⟩
  rw [h.settings]
  exact List.rel_append h.builders (.cons (Builder.image_fresh _) .nil)

end Session

/-- A call with replaced values builds the image of what the call builds. -/
theorem Clause.parallel_perform (call : Clause) (receiver : Receiver) :
    Parallel (Session.Image (L := L) f) (Answer.Image f) (call.perform receiver)
      ((call.mapValues f).perform receiver) := by
  have happly := fun n =>
    Session.parallel_within_query (L := L) n (Clause.parallel_apply (f := f) call)
  cases receiver with
  | builder n => exact (happly n).bind fun _ _ _ => Session.parallel_returned _
  | group n =>
    cases call with
    | condition c => exact (happly n).bind fun _ _ _ => Session.parallel_returned _
    | insert data => cases data <;> exact .fail _
    | _ => exact .fail _

/-- Compiling answers the same text with mapped bindings. -/
theorem BuilderCall.parallel_compile (n : Nat) :
    Parallel (Session.Image (L := L) f) (Answer.Image f) (perform n .compile)
      (perform n .compile) := by
  refine (Session.parallel_within_builder n Builder.parallel_compile).bind ?_
  rintro c _ rfl
  exact .pure (.compiled c)

theorem BuilderCall.parallel_compileCount (n : Nat) :
    Parallel (Session.Image (L := L) f) (Answer.Image f) (perform n .compileCount)
      (perform n .compileCount) := by
  refine (Session.parallel_within_builder n Builder.parallel_compileCount).bind ?_
  rintro c _ rfl
  exact .pure (.compiled c)

/-- The text alone is the same. -/
theorem BuilderCall.parallel_toSql (n : Nat) :
    Parallel (Session.Image (L := L) f) (Answer.Image f) (perform n .toSql)
      (perform n .toSql) := by
  refine (Session.parallel_within_builder n Builder.parallel_compile).bind ?_
  rintro c _ rfl
  exact .pure (.text c.sql)

/-- The new builder as an answer. -/
theorem Session.parallel_showBuilder (n : Nat) :
    Parallel (Image (L := L) f) (Answer.Image f)
      (do return .builder ((← .state).builder n)) (do return .builder ((← .state).builder n)) :=
  Parallel.state.bind fun _ _ h => .pure (.builder (h.builder n))

/-- An action that builds or renders runs in parallel with its replaced form. -/
theorem Action.parallel_perform (site : Site) (here : Receiver) {action : Action}
    (h : action.builds = true) :
    Parallel (Session.Image (L := L) f) (Answer.Image f) (action.perform site here)
      ((action.mapValues f).perform site here) := by
  cases action with
  | clause call =>
    refine Parallel.bind (Session.parallel_receiverOf site here) ?_
    rintro receiver _ rfl
    exact Clause.parallel_perform call receiver
  | builder call =>
    refine Parallel.bind (Session.parallel_needBuilder site here) ?_
    rintro n _ rfl
    cases call with
    | toSql => exact BuilderCall.parallel_toSql n
    | compile => exact BuilderCall.parallel_compile n
    | compileCount => exact BuilderCall.parallel_compileCount n
    | _ => cases h
  | database call =>
    cases call with
    | query register =>
      refine Parallel.bind (Session.parallel_newBuilder register) ?_
      rintro n _ rfl
      exact Session.parallel_showBuilder n
    | table register name label =>
      refine Parallel.bind (Session.parallel_newBuilder register) ?_
      rintro n _ rfl
      have htable : Parallel (Query.Image f) Eq (Clause.table name label).apply
          (Clause.table name label).apply := Clause.parallel_apply (.table name label)
      refine (Session.parallel_within_query n htable).bind fun _ _ _ => ?_
      exact Session.parallel_showBuilder n
    | _ => cases h
  | raise message => exact .fail _
  | _ => cases h

/-- The same frame with the images of its builders and of what the steps came to. -/
structure Frame.Image (f : Value → Value) (fr fr' : Frame L) : Prop where
  /-- The session is an image. -/
  session : Session.Image f fr.session fr'.session
  /-- So is what the steps came to, if they were run. -/
  inner : Option.Rel (List.Forall₂ (Entry.Image f)) fr.inner fr'.inner

/-- What runs alike in a session runs alike inside a block. -/
theorem Frame.parallel_within {α β : Type} {Q : α → β → Prop} {act : Attempt (Session L) α}
    {act' : Attempt (Session L) β} (h : Parallel (Session.Image f) Q act act') :
    Parallel (Frame.Image f) Q (act.within sessionPart) (act'.within sessionPart) :=
  .within (fun _ _ hfr => hfr.session) (fun _ _ _ _ hfr hs => ⟨hs, hfr.inner⟩) h

namespace Block

/-- A marker goes to the same place whatever the values are. -/
theorem image_addToken (n : Nat) {token : Token} (htoken : token.mapValues f = token)
    {fr fr' : Frame L} (h : Frame.Image f fr fr') :
    Frame.Image f (addToken n token fr) (addToken n token fr') := by
  refine ⟨h.session.setQuery n ?_, h.inner⟩
  obtain ⟨data, hq, hdata⟩ := (h.session.builder n).query
  rw [hq]
  exact ⟨data, by simp [Query.mapValues, htoken], hdata⟩

/-- A group runs in parallel when the steps inside it do. -/
theorem parallel_group (site : Site) (here : Receiver) (connector : Option Value)
    {body body' : Receiver → Attempt (Frame L) Unit} (count count' : Nat)
    (hbody : ∀ receiver, Parallel (Frame.Image f) Eq (body receiver) (body' receiver)) :
    Parallel (Frame.Image f) (Answer.Image f) ((group connector).around site here body count)
      ((group connector).around site here body' count') := by
  refine Parallel.bind (Frame.parallel_within (Session.parallel_receiverOf site here)) ?_
  rintro receiver _ rfl
  refine .ofExcept_bind fun connector _ => ?_
  refine Parallel.bind (.update fun _ _ h => image_addToken _ rfl h) fun _ _ _ => ?_
  refine Parallel.bind (.ensuring (fun _ _ h => image_addToken _ rfl h) (hbody _)) fun _ _ _ => ?_
  exact Frame.parallel_within (Session.parallel_returned receiver)

end Block

/-- An entry is an image when its outcome and those inside of it are. -/
theorem Entry.Image.mk {outcome outcome' : Except Failure Answer}
    (h : Agrees (Answer.Image f) outcome outcome') {inner inner' : Option (List Entry)}
    (hinner : Option.Rel (List.Forall₂ (Entry.Image f)) inner inner') :
    Entry.Image f ⟨outcome, inner⟩ ⟨outcome', inner'⟩ := by
  cases hinner with
  | none => exact .plain h
  | some hinner => exact .block h hinner

/-- The outcome of the image of an entry is the image of its outcome. -/
theorem Entry.Image.outcome {entry entry' : Entry} (h : Entry.Image f entry entry') :
    Agrees (Answer.Image f) entry.outcome entry'.outcome := by
  cases h with
  | plain h => exact h
  | block h _ => exact h

namespace Step

/-- Images stop a run at the same place. -/
theorem stops_image {entry entry' : Entry} (h : Entry.Image f entry entry') (step : Step) :
    stops (step.mapValues f) entry' = stops step entry := by
  unfold stops
  rw [site_mapValues]
  have hout := h.outcome
  generalize entry.outcome = outcome at hout ⊢
  generalize entry'.outcome = outcome' at hout ⊢
  cases hout with
  | ok _ => rfl
  | error failure => rfl

/-- Two runs came to the same, with the images of the bindings. -/
structure RunImage (f : Value → Value) (run run' : List Entry × Option Failure × Session L) :
    Prop where
  /-- Entry by entry, the same failures and the images of the answers. -/
  entries : List.Forall₂ (Entry.Image f) run.1 run'.1
  /-- The same failure at the end, if there is one. -/
  failure : run'.2.1 = run.2.1
  /-- The sessions left behind are images of each other. -/
  session : Session.Image f run.2.2 run'.2.2

mutual

/-- A step and its replaced form come to the same, and leave sessions that are images again. -/
theorem image_run (step : Step) (hb : step.builds = true) (here : Receiver) {s s' : Session L}
    (h : Session.Image f s s') :
    Entry.Image f (step.run here s).1 ((step.mapValues f).run here s').1 ∧
      Session.Image f (step.run here s).2 ((step.mapValues f).run here s').2 := by
  match step with
  | .plain site action =>
    obtain ⟨hout, hend⟩ := Action.parallel_perform site here hb s s' h
    exact ⟨.plain hout, hend⟩
  | .block site b body =>
    cases b with
    | group connector =>
      have hbody : ∀ receiver, Parallel (Frame.Image f) Eq (inside (L := L) body receiver)
          (inside (mapValuesAll f body) receiver) := by
        intro receiver fr fr' hfr
        have hrun := image_runAll body hb receiver hfr.session
        refine ⟨?_, hrun.session, .some hrun.entries⟩
        dsimp only [Attempt.run, inside]
        rw [hrun.failure]
        exact .refl _
      obtain ⟨hout, hend⟩ := Block.parallel_group site here connector body.length
        (mapValuesAll f body).length hbody ⟨s, none⟩ ⟨s', none⟩ ⟨h, .none⟩
      rw [mapValues, run_block, run_block]
      exact ⟨.mk hout hend.inner, hend.session⟩
    | _ => cases hb

/-- Steps and their replaced forms come to the same, and leave sessions that are images again. -/
theorem image_runAll (steps : List Step) (hb : buildsAll steps = true) (here : Receiver)
    {s s' : Session L} (h : Session.Image f s s') :
    RunImage f (runAll steps here s) (runAll (mapValuesAll f steps) here s') := by
  match steps with
  | [] => exact ⟨.nil, rfl, h⟩
  | step :: rest =>
    obtain ⟨hstep, hrest⟩ := Bool.and_eq_true_iff.mp hb
    obtain ⟨hentry, hmid⟩ := image_run step hstep here h
    rw [mapValuesAll, runAll_cons, runAll_cons]
    dsimp only
    rw [stops_image hentry]
    cases stops step (run step here s).1 with
    | some failure => exact ⟨.cons hentry .nil, rfl, hmid⟩
    | none =>
      have hrun := image_runAll rest hrest here hmid
      exact ⟨.cons hentry hrun.entries, hrun.failure, hrun.session⟩

end

end Step

/-- Replacing every value to be bound in a program leaves every failure and every rendered text as
it is, and replaces the values of the bindings: in a run from the start, the same calls fail with
the same failures, each answer is the image of its counterpart, and so is the session at the end. -/
theorem Step.runAll_mapValues (f : Value → Value) (settings : Settings) (dialect : Dialect)
    (link : Option L) (tables : TableSource) (trace : Bool) (steps : List Step)
    (hb : buildsAll steps = true) :
    RunImage f
      (runAll steps (.builder 0) (Session.start settings dialect link tables trace))
      (runAll (mapValuesAll f steps) (.builder 0)
        (Session.start settings dialect link tables trace)) :=
  image_runAll steps hb (.builder 0) (Session.image_start settings dialect link tables trace)

/-- Items of a list inside a group, a pattern and the bound of a condition on groups give way to a
text that would end the statement if it were written into it. -/
theorem Step.runAll_mapValues_hostile :
    let here : Site := ⟨none, false, false⟩
    let steps : List Step :=
      [.plain here (.clause (.table (.text "t") none)),
        .block here (.group none)
          [.plain here (.clause (.condition
            (.oneOf (.text "a") (.list [.int 1, .int 2]) none none))),
            .plain here (.clause (.condition (.like (.text "b") (.text "x%") none none)))],
        .plain here (.clause (.having (.text "n") (.text ">") (.int 3) none)),
        .plain here (.builder .compile)]
    let hostile : Value → Value := fun _ => .text "'; DROP TABLE t; --"
    let start : Session Direct := Session.start .standard (.ofTarget .sqlite) none .nothing false
    Step.buildsAll steps = true ∧
      Step.RunImage hostile (Step.runAll steps (.builder 0) start)
        (Step.runAll (Step.mapValuesAll hostile steps) (.builder 0) start) := by
  intro here steps hostile start
  have hb : Step.buildsAll steps = true := rfl
  refine ⟨hb, ?_⟩
  exact Step.runAll_mapValues hostile .standard (.ofTarget .sqlite) none .nothing false steps hb

end BoundSql
