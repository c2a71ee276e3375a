import BoundSql.Connection.Direct
import BoundSql.Proofs.Session.Balance
import BoundSql.Proofs.Session.Prepared
import BoundSql.Proofs.Session.Upheld
import BoundSql.Proofs.Statement.Bounds

/-!
# Well-formed sessions

At every moment of a run the queries of all builders are well formed, whatever arguments the calls
were given and wherever they failed. Builders are also put back to snapshots, so the ordering that a
snapshot holds has its directions as well; it was taken of a builder that was well formed then.
-/

namespace BoundSql

open Attempt

variable {L : Type} [Connection L]

namespace Desk

/-- A desk whose builder is well formed. -/
abbrev WellFormed (d : Desk L) : Prop := d.builder.WellFormed

/-- Whether a desk is well formed is a matter of its builder. -/
theorem steady_wellFormed : Steady (WellFormed (L := L)) := steady_of_builder fun _ _ h => h

/-- The bound of one row is no part of what is looked at. -/
theorem wellFormed_first : Keeps (WellFormed (L := L)) first :=
  Keeps.bind (fun _ h => h.of_lists rfl rfl rfl) fun _ =>
    steady_wellFormed.run.bind steady_wellFormed.fetchFirst

/-- A count leaves its builder well formed. -/
theorem wellFormed_count : Keeps (WellFormed (L := L)) count := by
  intro d h
  rw [WellFormed, Builder.WellFormed, query_count]
  exact h

theorem wellFormed_countTotal : Keeps (WellFormed (L := L)) countTotal := by
  intro d h
  rw [WellFormed, builder_countTotal]
  exact h

/-- A page is bounded for a while, and the bounds are put back. -/
theorem wellFormed_paginate (settings : Settings) (page perPage : Option Value) :
    Keeps (WellFormed (L := L)) (paginate settings page perPage) := by
  intro d h
  rw [WellFormed, builder_paginate]
  exact h

end Desk

namespace Session

/-- The builders of a session are well formed, and so are the orderings that they may be put back
to. -/
structure WellFormed (s : Session L) : Prop where
  /-- Every builder is well formed. -/
  builders : ∀ n, (s.builder n).WellFormed
  /-- Every ordering that a snapshot holds has its directions. -/
  snapshots : ∀ taken ∈ s.snapshots, ∀ entry ∈ taken.2.orderBy, Query.Directed entry

theorem wellFormed_start (settings : Settings) (dialect : Dialect) (link : Option L)
    (tables : TableSource) (trace : Bool) :
    WellFormed (start settings dialect link tables trace) := by
  refine ⟨fun n => ?_, List.forall_mem_nil _⟩
  cases n with
  | zero => exact Query.wellFormed_fresh
  | succ n => exact Query.wellFormed_fresh

/-- A builder may be replaced by one that is well formed. -/
theorem WellFormed.setBuilder {s : Session L} (h : s.WellFormed) (n : Nat) {b : Builder}
    (hb : b.WellFormed) : WellFormed { s with builders := s.builders.set n b } :=
  ⟨fun m => holds_builder_set (Q := Builder.WellFormed) (fun _ _ => hb) fun _ => h.builders m,
    h.snapshots⟩

/-- The property is one of builders and snapshots. -/
theorem ofStore_wellFormed : OfStore (WellFormed (L := L)) where
  others s t hbuilders _ hsettings hsnapshots h := by
    refine ⟨fun n => ?_, hsnapshots ▸ h.snapshots⟩
    unfold builder
    rw [hbuilders, hsettings]
    exact h.builders n
  newBuilder register s h := by
    refine ⟨fun n => ?_, h.snapshots⟩
    rw [builder_newBuilder]
    exact h.builders n

/-! What keeps a builder well formed keeps the session so in which it is numbered. -/

variable {α : Type} (n : Nat)

/-- What keeps a query well formed keeps the session so. -/
theorem wellFormed_query {act : Attempt Query α} (hact : Keeps Query.WellFormed act) :
    Keeps (WellFormed (L := L)) (act.within (queryPart n)) :=
  fun _ h => h.setBuilder n (hact _ (h.builders n))

/-- What keeps a builder well formed keeps the session so. -/
theorem wellFormed_builder {act : Attempt Builder α} (hact : Keeps Builder.WellFormed act) :
    Keeps (WellFormed (L := L)) (act.within (builderPart n)) :=
  fun _ h => h.setBuilder n (hact _ (h.builders n))

/-- What keeps a desk well formed keeps the session so. -/
theorem wellFormed_desk {act : Attempt (Desk L) α} (hact : Keeps Desk.WellFormed act) :
    Keeps WellFormed (act.within (deskPart n)) := by
  intro s h
  have hset := h.setBuilder n (hact ⟨s.builder n, s.line⟩ (h.builders n))
  exact ofStore_wellFormed.others { s with builders := s.builders.set n _ } _ rfl rfl rfl rfl hset

/-- A snapshot of a builder holds its ordering, whose expressions have their directions. -/
theorem WellFormed.putSnapshot {s : Session L} (h : s.WellFormed) (name : String) :
    WellFormed
      { s with
        snapshots := Entries.put (· == ·) name (s.builder n).snapshot s.snapshots } := by
  refine ⟨h.builders, fun taken hm => ?_⟩
  rcases Entries.mem_put hm with hm | hvalue
  · exact h.snapshots taken hm
  · rw [hvalue]
    exact (h.builders n).orderBy

end Session

open Session in
/-- A call on a builder keeps a session well formed, unless it writes into a list directly. -/
theorem BuilderCall.wellFormed_perform (n : Nat) {call : BuilderCall}
    (hcall : call.isRegular = true) : Keeps (WellFormed (L := L)) (perform n call) := by
  have hcompile := wellFormed_builder (L := L) n Builder.wellFormed_compile
  have hcount := wellFormed_builder (L := L) n Builder.wellFormed_compileCount
  have hsteady := Desk.steady_wellFormed (L := L)
  cases call with
  | toSql => exact hcompile.bind fun _ => .pure _
  | compile => exact hcompile.bind fun _ => .pure _
  | compileCount => exact hcount.bind fun _ => .pure _
  | bindings => exact Keeps.bind .state fun _ => .pure _
  | dump => exact Keeps.bind .state fun _ => .pure _
  | get => exact (wellFormed_desk n hsteady.get).bind fun _ => .pure _
  | first => exact (wellFormed_desk n Desk.wellFormed_first).bind fun _ => .pure _
  | value column =>
    have hvalue := Desk.keeps_value (Desk.wellFormed_first (L := L)) column
    exact (wellFormed_desk n hvalue).bind fun _ => .pure _
  | count => exact (wellFormed_desk n Desk.wellFormed_count).bind fun _ => .pure _
  | execute => exact (wellFormed_desk n hsteady.execute).bind fun _ => .pure _
  | insertGetId => exact (wellFormed_desk n hsteady.insertGetId).bind fun _ => .pure _
  | lastInsertId => exact (wellFormed_desk n hsteady.lastInsertId).bind fun _ => .pure _
  | countTotal => exact (wellFormed_desk n Desk.wellFormed_countTotal).bind fun _ => .pure _
  | paginate page perPage =>
    refine Keeps.bind .state fun s => ?_
    exact (wellFormed_desk n (Desk.wellFormed_paginate _ page perPage)).bind fun _ => .pure _
  | run => exact (wellFormed_desk n hsteady.run).bind ofStore_wellFormed.keep
  | snapshot name => exact fun s h => h.putSnapshot n name
  | restore name =>
    intro s h
    refine holds_bind (P := WellFormed) h fun _ t hread _ => ?_
    cases hread
    refine holds_bind (P := WellFormed) (Keeps.ofOption _ _ s h) fun taken t hfound _ => ?_
    obtain ⟨hfound, rfl⟩ := run_ofOption_eq_ok hfound
    obtain ⟨key, hm⟩ := Entries.mem_of_find? hfound
    have hrestored := (h.builders n).restore (h.snapshots _ hm)
    exact h.setBuilder n hrestored
  | setKind kind =>
    have hkind : Keeps Query.WellFormed (Attempt.update fun q => { q with kind }) :=
      .update fun _ h => h.of_lists rfl rfl rfl
    exact (wellFormed_query n hkind).bind fun _ => .pure _
  | push list token => cases hcall

namespace Session

/-- Runs that go through the calls of builders keep sessions well formed. -/
theorem upheld_wellFormed :
    Upheld (WellFormed (L := L)) fun action => action.isRegular = true where
  toOfStore := ofStore_wellFormed
  action site here action haction := by
    refine action.keeps_performed_of_builders ofStore_wellFormed site here (fun call _ n => ?_) ?_
    · exact wellFormed_query n call.wellFormed_apply
    · rintro n call rfl
      exact BuilderCall.wellFormed_perform n haction
  marker n token htoken := by
    refine wellFormed_query n (.update fun q h => h.append_wheres ?_)
    exact List.forall_mem_singleton.mpr (Token.populated_marker htoken)
  putBack n s t hs ht := ht.setBuilder n ((ht.builders n).restore (hs.builders n).orderBy)

end Session

namespace Step

mutual

/-- A step is regular when all actions in it are. -/
theorem isRegular_iff (step : Step) :
    step.isRegular = true ↔ ∀ action ∈ step.actions, action.isRegular = true := by
  match step with
  | .plain _ action => rw [isRegular, actions, List.forall_mem_singleton]
  | .block _ _ body => exact isRegularAll_iff body

/-- Steps go through the calls of builders if all their calls do. -/
theorem isRegularAll_iff (steps : List Step) :
    isRegularAll steps = true ↔ ∀ action ∈ actionsAll steps, action.isRegular = true := by
  match steps with
  | [] => exact iff_of_true rfl (List.forall_mem_nil _)
  | step :: rest =>
    rw [isRegularAll, actionsAll, List.forall_mem_append, Bool.and_eq_true_iff, isRegular_iff step,
      isRegularAll_iff rest]

end

/-- At every moment of a run that goes through the calls of builders, whatever their arguments and
wherever they fail, each builder is well formed. To whichever snapshot it is put back, each of its
membership tests is written with at least one placeholder, and each bound as its keyword and a
number in decimal digits. Calls on the builder answer with no other texts than those it renders so,
and ask the connection to prepare no others, since counting, paging and looking for a first row
change of a builder only what a snapshot holds. -/
theorem Reaches.wellFormed (settings : Settings) (dialect : Dialect) (link : Option L)
    (tables : TableSource) (trace : Bool) {steps : List Step} {running : List Nat} {t : Session L}
    (h : Reaches steps (Session.start settings dialect link tables trace) running t)
    (hsteps : isRegularAll steps = true) (n : Nat) :
    (t.builder n).WellFormed ∧ (∀ s, ((t.builder n).restore s).WellWritten) ∧
      ∀ call : BuilderCall,
        (∀ answer t' sql, (BuilderCall.perform n call).run t = (.ok answer, t') →
          answer.sql? = some sql → (t.builder n).Renders sql) ∧
        Line.Prepares (t.builder n).Renders t.line ((BuilderCall.perform n call).run t).2.line := by
  have hregular := (isRegularAll_iff steps).mp hsteps
  have hstart := Session.wellFormed_start settings dialect link tables trace
  have ht := Session.upheld_wellFormed.reaches h hregular hstart
  refine ⟨ht.builders n, fun s => ?_, fun call => ⟨fun _ _ _ hrun hsql => ?_, ?_⟩⟩
  · exact Builder.wellWritten_of_populated (ht.builders n).wheres
  · exact BuilderCall.renders_of_answer hrun hsql
  · exact BuilderCall.prepares_perform n call t

/-- A negative offset becomes zero, a membership test without values degrades, one that is given no
list fails, a bound inside a call that preserves its builder is gone after it fails, and a first row
that cannot be looked for leaves a bound of one. -/
theorem Reaches.wellFormed_failing :
    let here : Site := ⟨none, false, false⟩
    let build : Clause → Step := fun call => .plain here (.clause call)
    let notAmong : String → Value → Step := fun column values =>
      build (.condition (.oneOf (.text column) values none (some (.bool true))))
    let steps : List Step :=
      [build (.table (.text "t") none), notAmong "a" (.list [.int 1, .int 2]),
        notAmong "b" (.int 3), .block here (.group none) [notAmong "c" (.list [])],
        build (.orderBy (.text "a") (some (.text " desc "))), build (.offset (.int (-3))),
        .block here .preserve [build (.limit (.int 5)), .plain here (.raise "stop")],
        .plain here (.builder .first)]
    let s : Session Direct := Session.start .standard (.ofTarget .sqlite) none .nothing false
    let b := (play steps s).2.builder 0
    let sql := fun b : Builder => (Builder.compile.run b).1.toOption.map Compiled.sql
    Reaches steps s [] (play steps s).2 ∧ isRegularAll steps = true ∧ b.WellFormed ∧
      b.WellWritten ∧ b.query.limit = some 1 ∧ b.query.offset = some 0 ∧
      sql b = some
        "SELECT * FROM t WHERE a NOT IN (:p3,:p4) AND (1=1) ORDER BY a DESC LIMIT 1 OFFSET 0" := by
  intro here build notAmong steps s b sql
  have hreaches : Reaches steps s [] (play steps s).2 :=
    ⟨steps, [], (List.append_nil _).symm, .start⟩
  have hregular : isRegularAll steps = true := rfl
  obtain ⟨hformed, hwritten, -⟩ :=
    hreaches.wellFormed .standard (.ofTarget .sqlite) none .nothing false hregular 0
  have hb := hwritten b.snapshot
  rw [Builder.restore_snapshot] at hb
  exact ⟨hreaches, hregular, hformed, hb, by decide +kernel, by decide +kernel, by decide +kernel⟩

end Step

end BoundSql
