import BoundSql.Connection.Direct
import BoundSql.Proofs.Binder.Freshness
import BoundSql.Proofs.Session.Accounts

/-!
# Placeholder names are fresh

A run that puts nothing back keeps the accounts of its builders at every moment, wherever it is and
whatever has failed. So no two renders of a builder share a name, and its bindings are those of its
last render.
-/

namespace BoundSql

open Attempt

variable {L : Type} [Connection L] {past : List Render} {size : Nat} {here : Receiver}

/-- Entering a call hands its steps a builder that was made, or a handle on it. -/
theorem Block.number_enter {b : Block} {site : Site} {receiver : Receiver} {fr fr' : Frame L}
    (hfr : fr.session.Numbered size) (hhere : here.number < size)
    (h : (b.enter site here).run fr = (.ok receiver, fr')) :
    receiver.number < fr'.session.builders.length := by
  cases b with
  | group connector =>
    obtain ⟨found, mid, hfound, hrest⟩ := run_bind_eq_ok h
    obtain ⟨rfl, hnumber⟩ := hfr.receiverOf_frame hhere hfound
    obtain ⟨_, _, hrest⟩ := run_ofExcept_bind_eq_ok hrest
    cases hrest
    exact (List.length_set ..).symm ▸ hnumber
  | transaction =>
    obtain ⟨n, mid, hfound, hrest⟩ := run_bind_eq_ok h
    obtain ⟨rfl, hnumber⟩ := hfr.needBuilder_frame hhere hfound
    obtain ⟨_, mid', hline, hrest⟩ := run_bind_eq_ok hrest
    cases hrest
    have hothers : ∀ {α : Type} (act : Attempt (Line L) α),
        Keeps (fun t : Frame L => n < t.session.builders.length) (act.within Frame.linePart) :=
      fun act => .within_other (fun _ _ ht => ht) act
    have hkept := Line.keeps_enter .noConnection hothers mid hnumber
    rw [hline] at hkept
    exact hkept
  | preserve =>
    obtain ⟨n, mid, hfound, hrest⟩ := run_bind_eq_ok h
    obtain ⟨rfl, hnumber⟩ := hfr.needBuilder_frame hhere hfound
    cases hrest
    exact hnumber
  | newTransaction register =>
    obtain ⟨_, mid, hline, hrest⟩ := run_bind_eq_ok h
    cases hrest
    exact (List.length_append ..).symm ▸ Nat.lt_succ_self _

/-- What a call that runs no other steps renders is added to the accounts. -/
theorem Action.accounted_perform (site : Site) {action : Action} (h : action.rewinds = false)
    {s : Session L} (hs : s.Accounted past size) (hhere : here.number < size) :
    ((action.perform site here).run s).2.Accounted (past ++ action.renders site here s) size := by
  have hothers : (∀ n call, action = .builder call →
      Keeps (Session.Accounted (L := L) past size) (BuilderCall.perform n call)) →
      ((action.perform site here).run s).2.Accounted past size := fun hbuilder =>
    keeps_performed_of_builders Session.accounted_ofBuilders.ofStore site here action
      (fun _ _ n => .within_other (fun _ _ ht => ht.setBuilder rfl) _) hbuilder s hs
  cases action with
  | builder call =>
    rw [renders, perform, run_bind]
    rcases hfound : (Session.needBuilder site here).run s with ⟨outcome, t⟩
    cases outcome with
    | error failure =>
      have hsame := Session.keeps_needBuilder (P := (· = s)) site here s rfl
      rw [hfound] at hsame
      rw [List.append_nil, hsame]
      exact hs
    | ok n =>
      obtain ⟨rfl, hn⟩ := hs.needBuilder hhere hfound
      exact BuilderCall.accounted_perform h hs hn
  | _ =>
    have hkept := hothers nofun
    rw [← List.append_nil past] at hkept
    exact hkept

/-- Markers are no part of the accounts. -/
theorem Block.accounted_addToken (n : Nat) (token : Token) (_ : token.IsMarker) (fr : Frame L)
    (h : fr.session.Accounted past size) : (addToken n token fr).session.Accounted past size :=
  h.setBuilder rfl

/-- Entering a call leaves the accounts as they are. -/
theorem Block.accounted_enter (site : Site) (here : Receiver) (b : Block) :
    Keeps (Holds (Session.Accounted (L := L) past size)) (b.enter site here) :=
  holds_enter Session.accounted_ofBuilders.ofStore accounted_addToken site here b

namespace Step

/-- What a call with steps inside it renders is added to the accounts, if what its steps render
is. -/
theorem accounted_block (site : Site) {b : Block} (hb : b.rewinds = false) {body : List Step}
    (hbody : ∀ {past : List Render} {size : Nat} {receiver : Receiver} {s : Session L},
      receiver.number < size → s.Accounted past size →
        (runAll body receiver s).2.2.Accounted (past ++ rendersAll body receiver s) size)
    (hhere : here.number < size) {s : Session L} (hs : s.Accounted past size) :
    (run (.block site b body) here s).2.Accounted
      (past ++ renders (.block site b body) here s) size := by
  have hentered := b.accounted_enter site here ⟨s, none⟩ hs
  rw [run_block, renders]
  dsimp only
  rcases henter : (b.enter site here).run (⟨s, none⟩ : Frame L) with ⟨outcome, fr⟩
  rw [henter] at hentered
  cases outcome with
  | error failure =>
    obtain ⟨leave, hleave⟩ := Block.surrounds_around (L := L) site here body.length b ⟨s, none⟩
    rw [hleave, henter, List.append_nil]
    exact hentered
  | ok receiver =>
    have hgoes : b ≠ .preserve := by
      rintro rfl
      cases hb
    have hreceiver := Block.number_enter hs.toNumbered hhere henter
    have hinside : ((inside body receiver).run fr).2.session.Accounted
        (past ++ rendersAll body receiver fr.session) fr.session.builders.length :=
      hbody hreceiver hentered.all
    have hend := Block.holds_left Session.accounted_ofBuilders.ofStore Block.accounted_addToken
      hgoes henter hinside body.length
    exact hend.mono hentered.size_le

mutual

/-- What a step renders is added to the accounts. -/
theorem accounted_run (step : Step) (h : step.rewinds = false) {past : List Render} {size : Nat}
    {here : Receiver} (hhere : here.number < size) {s : Session L} (hs : s.Accounted past size) :
    (run step here s).2.Accounted (past ++ renders step here s) size := by
  match step with
  | .plain site action => exact Action.accounted_perform site h hs hhere
  | .block site b body =>
    obtain ⟨hb, hbody⟩ := Bool.or_eq_false_iff.mp h
    exact accounted_block site hb (fun hreceiver hs => accounted_runAll body hbody hreceiver hs)
      hhere hs

/-- What steps render is added to the accounts, wherever they end. -/
theorem accounted_runAll (steps : List Step) (h : rewindsAny steps = false) {past : List Render}
    {size : Nat} {here : Receiver} (hhere : here.number < size) {s : Session L}
    (hs : s.Accounted past size) :
    (runAll steps here s).2.2.Accounted (past ++ rendersAll steps here s) size := by
  match steps with
  | [] =>
    rw [rendersAll, List.append_nil]
    exact hs
  | step :: rest =>
    obtain ⟨hstep, hrest⟩ := Bool.or_eq_false_iff.mp h
    have hmid := accounted_run step hstep hhere hs
    rw [runAll_cons, rendersAll, ← List.append_assoc]
    dsimp only
    cases stops step (run step here s).1 with
    | some failure =>
      rw [List.append_nil]
      exact hmid
    | none => exact accounted_runAll rest hrest hhere hmid

end

/-- At every moment of a run the builders account for the renders made by then. -/
theorem Visits.accounted {steps : List Step} {recent : List Render} {s t : Session L}
    (h : Visits steps here s recent t) (hsteps : rewindsAny steps = false)
    (hhere : here.number < size) (hs : s.Accounted past size) :
    ∃ size', t.Accounted (past ++ recent) size' := by
  induction h generalizing past size with
  | start =>
    rw [List.append_nil]
    exact ⟨size, hs⟩
  | after =>
    obtain ⟨hstep, _⟩ := Bool.or_eq_false_iff.mp hsteps
    exact ⟨size, accounted_run _ hstep hhere hs⟩
  | behind _ _ ih =>
    obtain ⟨hstep, hrest⟩ := Bool.or_eq_false_iff.mp hsteps
    rw [← List.append_assoc]
    exact ih hrest hhere (accounted_run _ hstep hhere hs)
  | @inside site b _ _ here _ s _ _ _ henter _ ih =>
    obtain ⟨hstep, _⟩ := Bool.or_eq_false_iff.mp hsteps
    obtain ⟨_, hbody⟩ := Bool.or_eq_false_iff.mp hstep
    have hentered := b.accounted_enter site here ⟨s, none⟩ hs
    rw [henter] at hentered
    exact ih hbody (Block.number_enter hs.toNumbered hhere henter) hentered.all

/-- What a script renders is added to the accounts. -/
theorem accounted_play (steps : List Step) (h : rewindsAny steps = false) (hsize : 0 < size)
    {s : Session L} (hs : s.Accounted past size) :
    (play steps s).2.Accounted (past ++ rendersPlayed steps s) size := by
  induction steps generalizing past s with
  | nil =>
    rw [rendersPlayed, List.append_nil]
    exact hs
  | cons step rest ih =>
    obtain ⟨hstep, hrest⟩ := Bool.or_eq_false_iff.mp h
    rw [play_cons, rendersPlayed, ← List.append_assoc]
    exact ih hrest (accounted_run step hstep hsize hs)

/-- At every moment of a script the builders account for the renders made by then. -/
theorem Arrives.accounted {steps : List Step} {s t : Session L} (h : Arrives steps s past t)
    (hsteps : rewindsAny steps = false) (hs : s.Accounted [] 1) :
    ∃ size, t.Accounted past size := by
  obtain ⟨front, back, recent, rfl, rfl, hvisits⟩ := h
  obtain ⟨hfront, hback⟩ := rewindsAny_append.mp hsteps
  have hplayed := accounted_play front hfront Nat.zero_lt_one hs
  rw [List.nil_append] at hplayed
  exact hvisits.accounted hback Nat.zero_lt_one hplayed

end Step

/-- On a binder that only binds, is reset, and is restored to any of its snapshots any number of
times, the live names stand in the order of their numbers, none of them ahead of the counter, so
that each bind adds a last binding under a new name. Without restores no name is issued twice, and
the counter tells the number of binds. So in every script that puts nothing back, at every moment
and whatever has failed, the names of any two renders of a builder are disjoint, and together they
are all that it has issued. After a render that came to an answer the bindings asked for are those
of the answer, until the next render. -/
theorem Binder.names_fresh :
    (∀ calls : List BinderCall, (∀ name value, .assign name value ∉ calls) →
      let b := (BinderRun.play calls .start).2.binder
      b.Ordered ∧ ∀ value,
        (b.bind value).2.params = b.params ++ [((b.bind value).1, value)] ∧
          (b.bind value).1 ∉ Entries.keys b.params) ∧
    (∀ calls : List BinderCall, (∀ key, .restore key ∉ calls) →
      let r := BinderRun.play calls .start
      (BinderRun.names r.1).Nodup ∧ r.2.binder.counter = calls.countP BinderCall.issues) ∧
    ∀ (settings : Settings) (dialect : Dialect) (link : Option L) (tables : TableSource)
      (trace : Bool) (steps : List Step) (past : List Render) (t : Session L) (n : Nat),
      Step.rewindsAny steps = false →
      Step.Arrives steps (.start settings dialect link tables trace) past t →
        let mine := Render.ofBuilder n past
        (mine.Pairwise fun r r' => List.Disjoint r.names r'.names) ∧
          mine.flatMap Render.names = Binder.issued 0 (t.builder n).binder.counter ∧
          ∀ last c, mine.getLast? = some last → last.outcome = .ok c →
            (BuilderCall.perform n .bindings).run t = (.ok (.bindings c.params), t) := by
  refine ⟨fun calls hcalls => ?_, fun calls hcalls => ?_, ?_⟩
  · have hordered := BinderRun.ordered_start.play hcalls
    have hlive := hordered.binder.live
    exact ⟨hordered.binder, fun value => ⟨hlive.params_bind value, hlive.name_bind value⟩⟩
  · obtain ⟨hcounter, hnames⟩ := BinderRun.issued_play hcalls .start
    dsimp only
    rw [hnames]
    exact ⟨nodup_issued _ _, hcounter.trans (Nat.zero_add _)⟩
  · intro settings dialect link tables trace steps past t n hsteps harrives
    obtain ⟨size, ht⟩ := harrives.accounted hsteps (Session.accounted_start ..)
    refine ⟨(ht.builders n).disjoint, (ht.builders n).issued, fun last c hlast hc => ?_⟩
    have hmem : last ∈ past := List.mem_of_mem_filter (List.mem_of_getLast? hlast)
    have hparams : (t.builder n).binder.params = c.params := by
      rw [(ht.builders n).live, hlast, ht.answered last hmem c hc]
      rfl
    rw [← hparams]
    rfl

/-- A binder that goes back to its first snapshot and then to its second one; and a group inside of
which a render fails, between two renders that do not. -/
theorem Binder.names_fresh_failing :
    let restoring : List BinderCall :=
      [.bind (.int 1), .snapshot "a", .bind (.int 2), .snapshot "b", .restore "a", .bind (.int 3),
        .restore "b"]
    let binding : List BinderCall := [.bind (.int 1), .reset, .bind (.int 2)]
    let here : Site := ⟨none, false, false⟩
    let caught : Site := ⟨some "main", true, false⟩
    let test : String → Step := fun column =>
      .plain here (.clause (.condition (.compare (.text column) (some (.int 1)) none none)))
    let steps : List Step :=
      [.plain here (.clause (.table (.text "t") none)), test "a", .plain here (.builder .compile),
        .block here (.group none) [test "b", .plain caught (.builder .compile)],
        .plain here (.builder .compile)]
    let s : Session Direct := .start .standard (.ofTarget .sqlite) none .nothing false
    let mine := Render.ofBuilder 0 (Step.rendersPlayed steps s)
    let t := (Step.play steps s).2
    let b := (BinderRun.play restoring .start).2.binder
    (∀ name value, .assign name value ∉ restoring) ∧ b.Ordered ∧
      Entries.keys (b.bind (.int 4)).2.params = ["p1", "p2", "p3"] ∧
      (∀ key, .restore key ∉ binding) ∧
      BinderRun.names (BinderRun.play binding .start).1 = ["p1", "p2"] ∧
      (BinderRun.play binding .start).2.binder.counter = 2 ∧
      Step.rewindsAny steps = false ∧
      mine.map Render.names = [["p1"], ["p2", "p3"], ["p4", "p5"]] ∧
      (mine.Pairwise fun r r' => List.Disjoint r.names r'.names) ∧
      mine.flatMap Render.names = Binder.issued 0 (t.builder 0).binder.counter ∧
      ∃ c : Compiled, (BuilderCall.perform 0 .bindings).run t = (.ok (.bindings c.params), t) ∧
        Entries.keys c.params = ["p4", "p5"] := by
  intro restoring binding here caught test steps s mine t b
  obtain ⟨hrestoring, hbinding, hsteps⟩ := names_fresh (L := Direct)
  have hrestores : ∀ name value, .assign name value ∉ restoring := by simp [restoring]
  have hbinds : ∀ key, .restore key ∉ binding := by simp [binding]
  have hrewinds : Step.rewindsAny steps = false := rfl
  have harrives : Step.Arrives steps s (Step.rendersPlayed steps s ++ []) t :=
    ⟨steps, [], [], (List.append_nil _).symm, rfl, .start⟩
  rw [List.append_nil] at harrives
  obtain ⟨hordered, hnext⟩ := hrestoring restoring hrestores
  have hcounter := (hbinding binding hbinds).2
  obtain ⟨hdisjoint, hissued, hlast⟩ := hsteps _ _ _ _ _ steps _ t 0 hrewinds harrives
  refine ⟨hrestores, hordered, ?_, hbinds, by decide +kernel, hcounter, hrewinds,
    by decide +kernel, hdisjoint, hissued, ?_⟩
  · rw [(hnext (.int 4)).1]
    decide +kernel
  · have hanswered : (mine.getLast?.bind fun last =>
        last.outcome.toOption.map fun c => Entries.keys c.params) = some ["p4", "p5"] := by
      decide +kernel
    obtain ⟨last, hmem, hanswer⟩ := Option.bind_eq_some_iff.mp hanswered
    obtain ⟨c, hc, hkeys⟩ := Option.map_eq_some_iff.mp hanswer
    have houtcome : last.outcome = .ok c := by
      cases hlast : last.outcome with
      | ok c' =>
        rw [hlast] at hc
        exact congrArg Except.ok (Option.some.inj hc)
      | error failure =>
        rw [hlast] at hc
        cases hc
    exact ⟨c, hlast last c hmem houtcome, hkeys⟩

end BoundSql
