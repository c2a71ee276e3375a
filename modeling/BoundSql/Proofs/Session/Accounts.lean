import BoundSql.Proofs.Session.Numbers
import BoundSql.Proofs.Session.Renders
import BoundSql.Proofs.Session.Upheld

/-!
# Accounts of the names issued

As long as nothing is put back, the names that a builder has issued are those of its renders, one
render after another, and its bindings are those of its last render. A call on a builder adds its
render to these accounts, and everything else leaves them as they are.
-/

namespace BoundSql

open Attempt

namespace Render

/-- A binder accounts for the renders of its builder. -/
structure Account (mine : List Render) (b : Binder) : Prop where
  /-- It has issued the names of the renders, in their order, and no others. -/
  issued : mine.flatMap names = Binder.issued 0 b.counter
  /-- Its bindings are those of the last render. -/
  live : b.params = (mine.getLast?.map bindings).getD []

theorem account_fresh : Account [] .fresh := ⟨rfl, rfl⟩

/-- A render takes its names from where the counter stands. -/
theorem Account.concat {mine : List Render} {b : Binder} (h : Account mine b) (n : Nat)
    {r : Except Failure Compiled × Builder} (hr : Builder.IsRender b r) :
    Account (mine ++ [of n r]) r.2.binder := by
  obtain ⟨vs, hvs⟩ := hr.bound
  have hparams : r.2.binder.params = (Binder.issued b.counter vs.length).zip vs := by
    rw [hvs, Binder.params_reset_bindAll]
  have hnames : (of n r).names = Binder.issued b.counter vs.length := by
    rw [names, of, hparams, Entries.keys, List.map_fst_zip]
    simp [Binder.issued]
  refine ⟨?_, ?_⟩
  · rw [List.flatMap_append, h.issued, List.flatMap_singleton, hnames, hvs, Binder.counter_bindAll,
      Binder.counter_reset, Binder.issued_append, Nat.zero_add]
  · rw [List.getLast?_concat]
    rfl

/-- No name is issued for two renders. -/
theorem Account.disjoint {mine : List Render} {b : Binder} (h : Account mine b) :
    mine.Pairwise fun r r' => List.Disjoint r.names r'.names := by
  have hnodup := Binder.nodup_issued 0 b.counter
  rw [← h.issued] at hnodup
  exact (List.nodup_flatMap.mp hnodup).2

end Render

variable {L : Type} [Connection L] {past : List Render} {size : Nat}

namespace Session

/-- Every builder of a session accounts for its part of the renders made so far, and so many
builders at least have been made. -/
structure Accounted (past : List Render) (size : Nat) (s : Session L) : Prop
    extends Numbered size s where
  /-- Every builder accounts for its renders. -/
  builders : ∀ n, Render.Account (Render.ofBuilder n past) (s.builder n).binder
  /-- A render that came to an answer has answered with its bindings. -/
  answered : ∀ r ∈ past, ∀ c, r.outcome = .ok c → c.params = r.bindings

theorem accounted_start (settings : Settings) (dialect : Dialect) (link : Option L)
    (tables : TableSource) (trace : Bool) :
    Accounted [] 1 (start settings dialect link tables trace) where
  toNumbered := numbered_start settings dialect link tables trace
  builders n := by
    cases n with
    | zero => exact Render.account_fresh
    | succ n => exact Render.account_fresh
  answered := nofun

/-- The accounts are about the builders only. -/
theorem accounted_ofBuilders : OfBuilders (Accounted (L := L) past size) where
  others s t hbuilders hregisters hsettings hs := by
    refine ⟨hs.of_length (congrArg List.length hbuilders) hregisters, fun n => ?_, hs.answered⟩
    unfold builder
    rw [hbuilders, hsettings]
    exact hs.builders n
  newBuilder register s hs := by
    have hnumbered := hs.toNumbered.newBuilder register
    refine ⟨hnumbered.mono (Nat.le_succ_of_le hs.size_le), fun n => ?_, hs.answered⟩
    rw [builder_newBuilder]
    exact hs.builders n

namespace Accounted

variable {s : Session L} {n : Nat} {b : Builder}

/-- The number of builders that were made may be taken to be all of them. -/
theorem all (h : Accounted past size s) : Accounted past s.builders.length s :=
  ⟨h.toNumbered.all, h.builders, h.answered⟩

theorem mono (h : Accounted past size s) {size' : Nat} (hsize : size' ≤ size) :
    Accounted past size' s := ⟨h.toNumbered.mono hsize, h.builders, h.answered⟩

/-- A builder may be replaced by one with the same binder. -/
theorem setBuilder (h : Accounted past size s) (hb : b.binder = (s.builder n).binder) :
    Accounted past size { s with builders := s.builders.set n b } := by
  refine ⟨h.toNumbered.setBuilder n b, fun m => ?_, h.answered⟩
  refine holds_builder_set (Q := fun b => Render.Account _ b.binder) ?_ fun _ => h.builders m
  rintro rfl _
  rw [hb]
  exact h.builders m

/-- A builder may be replaced by one with the binder that a render has left. -/
theorem render (h : Accounted past size s) (hn : n < s.builders.length)
    {r : Except Failure Compiled × Builder} (hr : Builder.IsRender (s.builder n).binder r)
    (hb : b.binder = r.2.binder) :
    Accounted (past ++ [.of n r]) size { s with builders := s.builders.set n b } := by
  refine ⟨h.toNumbered.setBuilder n b, fun m => ?_, fun r' hmem c hc => ?_⟩
  · refine holds_builder_set (Q := fun b => Render.Account _ b.binder) ?_ ?_
    · rintro rfl _
      rw [Render.ofBuilder_concat_self, hb]
      exact (h.builders m).concat m hr
    · intro hm
      have hne : m ≠ n := hm.resolve_right (Nat.not_le_of_lt hn)
      rw [Render.ofBuilder_concat_other n past r hne]
      exact h.builders m
  · rcases List.mem_append.mp hmem with hmem | hmem
    · exact h.answered r' hmem c hc
    · rw [List.mem_singleton.mp hmem] at hc ⊢
      exact hr.params c hc

/-- A builder may be replaced by one with the binder that a call leaves; what the call renders is
added to the accounts. -/
theorem call (h : Accounted past size s) (hn : n < s.builders.length) {call : BuilderCall}
    (hb : b.binder = call.left (s.builder n)) :
    Accounted (past ++ call.renders n (s.builder n)) size
      { s with builders := s.builders.set n b } := by
  rw [BuilderCall.left] at hb
  rw [BuilderCall.renders]
  cases hrender : call.render? (s.builder n) with
  | none =>
    rw [hrender] at hb
    rw [Option.toList_none, List.map_nil, List.append_nil]
    exact h.setBuilder hb
  | some r =>
    rw [hrender] at hb
    exact h.render hn (BuilderCall.isRender_render? hrender) hb

end Accounted

end Session

open Session in
/-- A call on a builder that was made, and that puts nothing back, adds its render to the
accounts. -/
theorem BuilderCall.accounted_perform {call : BuilderCall} (hcall : call.rewinds = false) {n : Nat}
    {s : Session L} (hs : s.Accounted past size) (hn : n < s.builders.length) :
    ((perform n call).run s).2.Accounted (past ++ call.renders n (s.builder n)) size := by
  have hof : OfBuilders (Accounted (L := L) (past ++ call.renders n (s.builder n)) size) :=
    accounted_ofBuilders
  have hbuilder : ∀ {α : Type} {act : Attempt Builder α},
      (act.run (s.builder n)).2.binder = call.left (s.builder n) →
        ((act.within (builderPart n)).run s).2.Accounted
          (past ++ call.renders n (s.builder n)) size :=
    fun hleft => hs.call hn hleft
  have hdesk : ∀ {α : Type} {act : Attempt (Desk L) α},
      (act.run ⟨s.builder n, s.line⟩).2.builder.binder = call.left (s.builder n) →
        ((act.within (deskPart n)).run s).2.Accounted
          (past ++ call.renders n (s.builder n)) size := by
    intro α act hleft
    have hset := hs.call hn hleft
    exact hof.others { s with builders := s.builders.set n _ } _ rfl rfl rfl hset
  have hquery : ∀ {α : Type} {act : Attempt Query α},
      (s.builder n).binder = call.left (s.builder n) →
        ((act.within (queryPart n)).run s).2.Accounted
          (past ++ call.renders n (s.builder n)) size :=
    fun hleft => hs.call hn hleft
  have hdone : call.renders n (s.builder n) = [] →
      s.Accounted (past ++ call.renders n (s.builder n)) size := by
    intro hnone
    rw [hnone, List.append_nil]
    exact hs
  cases call with
  | toSql => exact holds_bind (hbuilder rfl) fun _ _ _ ht => ht
  | compile => exact holds_bind (hbuilder rfl) fun _ _ _ ht => ht
  | compileCount => exact holds_bind (hbuilder (binder_compileCount _)) fun _ _ _ ht => ht
  | bindings => exact hdone rfl
  | dump => exact hdone rfl
  | get => exact holds_bind (hdesk (congrArg _ (Desk.builder_get _))) fun _ _ _ ht => ht
  | first => exact holds_bind (hdesk (congrArg _ (Desk.builder_first _))) fun _ _ _ ht => ht
  | value column =>
    have hvalue := (Desk.builder_value column _).trans (Desk.builder_first ⟨s.builder n, s.line⟩)
    exact holds_bind (hdesk (congrArg _ hvalue)) fun _ _ _ ht => ht
  | count => exact holds_bind (hdesk (Desk.binder_count _)) fun _ _ _ ht => ht
  | execute => exact holds_bind (hdesk (congrArg _ (Desk.builder_execute _))) fun _ _ _ ht => ht
  | insertGetId => exact holds_bind (hdesk (Desk.binder_insertGetId _)) fun _ _ _ ht => ht
  | lastInsertId =>
    exact holds_bind (hdesk (congrArg _ (Desk.builder_lastInsertId _))) fun _ _ _ ht => ht
  | countTotal => cases hcall
  | paginate page perPage => cases hcall
  | run =>
    refine holds_bind (hdesk (congrArg _ (Desk.builder_run _))) fun _ _ _ ht => ?_
    exact hof.ofStore.keep _ _ ht
  | snapshot name => exact hof.others s _ rfl rfl rfl (hdone rfl)
  | restore name => cases hcall
  | setKind kind => exact holds_bind (hquery rfl) fun _ _ _ ht => ht
  | push list token =>
    cases list with
    | wheres => exact holds_bind (hquery rfl) fun _ _ _ ht => ht
    | having => exact holds_bind (hquery rfl) fun _ _ _ ht => ht

end BoundSql
