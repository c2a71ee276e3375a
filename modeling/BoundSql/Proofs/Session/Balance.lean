import BoundSql.Connection.Direct
import BoundSql.Proofs.Session.Groups
import BoundSql.Proofs.Session.Upheld
import Mathlib.Data.List.Induction

/-!
# Balance through every run

At every moment of a run each builder has as many groups open as group calls on it are under way,
however calls nest, whichever handles and builders the steps inside them use, and wherever steps
fail. So a builder is refused for its groups exactly while group calls on it are under way.
-/

namespace BoundSql

open Attempt

variable {L : Type} [Connection L] {running : List Nat} {size : Nat} {site : Site}
  {here receiver : Receiver}

namespace Frame

/-- The groups of the builders inside a frame. -/
abbrev Grouped (running : List Nat) (size : Nat) (fr : Frame L) : Prop :=
  fr.session.Grouped running size

/-- What keeps the groups of a session keeps those of its frame. -/
theorem keeps_within_session {α : Type} {act : Attempt (Session L) α}
    (h : Keeps (Session.Grouped running size) act) :
    Keeps (Grouped running size) (act.within sessionPart) := fun fr hfr => h fr.session hfr

/-- The line opens no group. -/
theorem keeps_within_line {α : Type} (act : Attempt (Line L) α) :
    Keeps (Grouped running size) (act.within linePart) :=
  .within_other (fun _ _ h => h.of_builders rfl rfl rfl) act

/-- A body that keeps the groups does so where its builder is put back afterwards. -/
theorem keeps_preserving {α : Type} (n : Nat) {act : Attempt (Frame L) α}
    (h : Keeps (Grouped running size) act) :
    Keeps (Grouped running size) (Attempt.preserving (builderPart n) act) := by
  intro fr hfr
  have hend := h fr hfr
  exact hend.setBuilder (Builder.grouped_restore (hend.builders n) _) fun _ _ => rfl

end Frame

namespace Block

/-- An opening stands for one more group call under way. -/
theorem grouped_opening {fr : Frame L} (h : fr.Grouped running size) {n : Nat}
    (hn : n < fr.session.builders.length) (connector : Connector) :
    (addToken n (.opening connector) fr).Grouped (n :: running) size := by
  refine h.setBuilder ?_ fun m hm => ?_
  · rw [List.count_cons_self]
    exact (h.builders n).concat_opening connector
  · rcases hm with hm | hm
    · exact List.count_cons_of_ne (Ne.symm hm)
    · exact absurd hn (Nat.not_lt_of_le hm)

/-- A closing stands for one group call less. -/
theorem grouped_closing {fr : Frame L} {n : Nat} (h : fr.Grouped (n :: running) size) :
    (addToken n .closing fr).Grouped running size := by
  have hn : n < fr.session.builders.length := h.lt_of_mem List.mem_cons_self
  refine h.setBuilder ?_ fun m hm => ?_
  · have hopen := h.builders n
    rw [List.count_cons_self] at hopen
    exact hopen.concat_closing
  · rcases hm with hm | hm
    · exact (List.count_cons_of_ne (Ne.symm hm)).symm
    · exact absurd hn (Nat.not_lt_of_le hm)

variable {fr fr' : Frame L}

/-- Entering a call hands the steps a builder that was made, or a handle on it, and opens the
groups that the call counts for. -/
theorem grouped_enter {b : Block} (hfr : fr.Grouped running size) (hhere : here.number < size)
    (h : (b.enter site here).run fr = (.ok receiver, fr')) :
    ∃ size', receiver.number < size' ∧ fr'.Grouped (b.opens receiver ++ running) size' := by
  cases b with
  | group connector =>
    obtain ⟨found, mid, hfound, hrest⟩ := run_bind_eq_ok h
    obtain ⟨rfl, hnumber⟩ := hfr.numbered.receiverOf_frame hhere hfound
    obtain ⟨c, _, hrest⟩ := run_ofExcept_bind_eq_ok hrest
    cases hrest
    exact ⟨_, hnumber, grouped_opening hfr.all hnumber c⟩
  | transaction =>
    obtain ⟨n, mid, hfound, hrest⟩ := run_bind_eq_ok h
    obtain ⟨rfl, hnumber⟩ := hfr.numbered.needBuilder_frame hhere hfound
    obtain ⟨_, mid', hline, hrest⟩ := run_bind_eq_ok hrest
    have hmid := Line.keeps_enter .noConnection Frame.keeps_within_line _ hfr.all
    rw [hline] at hmid
    cases hrest
    exact ⟨_, hnumber, hmid⟩
  | preserve =>
    obtain ⟨n, mid, hfound, hrest⟩ := run_bind_eq_ok h
    obtain ⟨rfl, hnumber⟩ := hfr.numbered.needBuilder_frame hhere hfound
    cases hrest
    exact ⟨_, hnumber, hfr.all⟩
  | newTransaction register =>
    obtain ⟨_, mid, hline, hrest⟩ := run_bind_eq_ok h
    have hmid := Line.keeps_enter .absentCall Frame.keeps_within_line fr hfr
    rw [hline] at hmid
    cases hrest
    exact ⟨_, Nat.lt_succ_self _, hmid.newBuilder register⟩

/-- A call with steps inside it keeps the groups of every builder, if the steps do for whatever
receiver they are given. -/
theorem keeps_around (b : Block) (hhere : here.number < size)
    {body : Receiver → Attempt (Frame L) Unit}
    (hbody : ∀ {running size receiver}, receiver.number < size →
      Keeps (Frame.Grouped running size) (body receiver)) (count : Nat) :
    Keeps (Frame.Grouped running size) (b.around site here body count) := by
  have hneed : Keeps (Frame.Grouped (L := L) running size)
      ((Session.needBuilder site here).within Frame.sessionPart) :=
    Frame.keeps_within_session (Session.keeps_needBuilder site here)
  intro fr hfr
  cases b with
  | group connector =>
    have hfind : Keeps (Frame.Grouped (L := L) running size)
        ((Session.receiverOf site here).within Frame.sessionPart) :=
      Frame.keeps_within_session (Session.keeps_receiverOf site here)
    refine holds_bind (hfind fr hfr) fun found mid hfound _ => ?_
    obtain ⟨rfl, hnumber⟩ := hfr.numbered.receiverOf_frame hhere hfound
    refine holds_ofExcept_bind (hfr.all.mono hfr.size_le) fun c _ => ?_
    have hopened := grouped_opening hfr.all hnumber c
    have hinside : Keeps (Frame.Grouped (found.number :: running) mid.session.builders.length)
        (body (.group found.number)) := hbody hnumber
    have hclosed := grouped_closing (hinside _ hopened)
    refine Session.Grouped.mono ?_ hfr.size_le
    exact holds_bind hclosed fun _ t _ ht =>
      Frame.keeps_within_session (Session.keeps_returned found) t ht
  | transaction =>
    refine holds_bind (hneed fr hfr) fun n mid hfound _ => ?_
    obtain ⟨rfl, hnumber⟩ := hfr.numbered.needBuilder_frame hhere hfound
    have hscope : Keeps (Frame.Grouped running mid.session.builders.length)
        (Line.transactional .noConnection Frame.linePart (body (.builder n))) :=
      Line.keeps_transactional .noConnection Frame.keeps_within_line (hbody hnumber)
    exact (hscope.bind (fun _ => .pure _) mid hfr.all).mono hfr.size_le
  | preserve =>
    refine holds_bind (hneed fr hfr) fun n mid hfound _ => ?_
    obtain ⟨rfl, hnumber⟩ := hfr.numbered.needBuilder_frame hhere hfound
    have hscope : Keeps (Frame.Grouped running mid.session.builders.length)
        (Attempt.preserving (Frame.builderPart n) (body (.builder n))) :=
      Frame.keeps_preserving n (hbody hnumber)
    exact (hscope.bind (fun _ => .pure _) mid hfr.all).mono hfr.size_le
  | newTransaction register =>
    refine Keeps.bind (Line.keeps_transactional .absentCall Frame.keeps_within_line ?_)
      (fun _ => .pure _) fr hfr
    intro fr hfr
    have hmade := hfr.newBuilder register
    exact (hbody (Nat.lt_succ_self _) _ hmade).mono (Nat.le_succ_of_le hfr.size_le)

end Block

namespace Step

mutual

/-- Whether a step goes through the calls of builders, rather than writing into their lists. -/
def isRegular : Step → Bool
  | plain _ action => action.isRegular
  | block _ _ body => isRegularAll body

/-- Whether steps go through the calls of builders, rather than writing into their lists. -/
def isRegularAll : List Step → Bool
  | [] => true
  | step :: rest => isRegular step && isRegularAll rest

end

theorem isRegularAll_append {front back : List Step} :
    isRegularAll (front ++ back) = true ↔
      isRegularAll front = true ∧ isRegularAll back = true := by
  induction front with
  | nil => simp [isRegularAll]
  | cons step rest ih => simp [isRegularAll, ih, and_assoc]

mutual

/-- A step keeps the groups of every builder. -/
theorem grouped_run (step : Step) (h : step.isRegular = true) {running : List Nat} {size : Nat}
    {here : Receiver} (hhere : here.number < size) {s : Session L}
    (hs : s.Grouped running size) : (run step here s).2.Grouped running size := by
  match step with
  | .plain site action => exact Action.keeps_perform site here h s hs
  | .block site b body =>
    rw [run_block]
    refine Block.keeps_around b hhere ?_ body.length ⟨s, none⟩ hs
    intro running size receiver hreceiver fr hfr
    exact grouped_runAll body h hreceiver hfr

/-- Steps keep the groups of every builder, wherever they end. -/
theorem grouped_runAll (steps : List Step) (h : isRegularAll steps = true) {running : List Nat}
    {size : Nat} {here : Receiver} (hhere : here.number < size) {s : Session L}
    (hs : s.Grouped running size) : (runAll steps here s).2.2.Grouped running size := by
  match steps with
  | [] => exact hs
  | step :: rest =>
    obtain ⟨hstep, hrest⟩ := Bool.and_eq_true_iff.mp h
    have hmid := grouped_run step hstep hhere hs
    rw [runAll_cons]
    dsimp only
    cases stops step (run step here s).1 with
    | some failure => exact hmid
    | none => exact grouped_runAll rest hrest hhere hmid

end

/-- At every moment of a run each builder has as many groups open as group calls on it are under
way. -/
theorem Passes.grouped {steps : List Step} {inside : List Nat} {s t : Session L}
    (h : Passes steps here s inside t) (hsteps : isRegularAll steps = true)
    (hhere : here.number < size) (hs : s.Grouped running size) :
    ∃ size', t.Grouped (inside ++ running) size' := by
  induction h generalizing running size with
  | start => exact ⟨size, hs⟩
  | after =>
    obtain ⟨hstep, _⟩ := Bool.and_eq_true_iff.mp hsteps
    exact ⟨size, grouped_run _ hstep hhere hs⟩
  | behind _ _ ih =>
    obtain ⟨hstep, hrest⟩ := Bool.and_eq_true_iff.mp hsteps
    exact ih hrest hhere (grouped_run _ hstep hhere hs)
  | inside henter _ ih =>
    obtain ⟨hstep, _⟩ := Bool.and_eq_true_iff.mp hsteps
    obtain ⟨size', hreceiver, hfr⟩ := Block.grouped_enter hs hhere henter
    rw [List.append_assoc]
    exact ih hstep hreceiver hfr

/-- A script keeps the groups of every builder. -/
theorem grouped_play (steps : List Step) (h : isRegularAll steps = true) (hsize : 0 < size)
    {s : Session L} (hs : s.Grouped running size) : (play steps s).2.Grouped running size := by
  induction steps using List.reverseRecOn with
  | nil => exact hs
  | append_singleton front step ih =>
    obtain ⟨hfront, hstep⟩ := isRegularAll_append.mp h
    obtain ⟨hstep, _⟩ := Bool.and_eq_true_iff.mp hstep
    rw [play_concat]
    exact grouped_run step hstep hsize (ih hfront)

/-- At every moment of a script each builder has as many groups open as group calls on it are under
way. So it is never refused for its groups while there are none, and always refused while there are
some and its statement writes its conditions on rows: for these groups, unless what stands before
their end is no text. Its conditions on groups never hold a marker. -/
theorem Reaches.balanced (settings : Settings) (dialect : Dialect) (link : Option L)
    (tables : TableSource) (trace : Bool) {steps : List Step} (hsteps : isRegularAll steps = true)
    {inside : List Nat} {t : Session L}
    (h : Reaches steps (Session.start settings dialect link tables trace) inside t) (n : Nat) :
    (t.builder n).Balanced (inside.count n) := by
  obtain ⟨front, back, rfl, hpasses⟩ := h
  obtain ⟨hfront, hback⟩ := isRegularAll_append.mp hsteps
  have hstart : (Session.start settings dialect link tables trace).Grouped [] 1 :=
    Session.grouped_start settings dialect link tables trace
  have hplay := grouped_play front hfront Nat.zero_lt_one hstart
  obtain ⟨size', ht⟩ := hpasses.grouped hback Nat.zero_lt_one hplay
  rw [List.append_nil] at ht
  exact Builder.balanced_of_grouped (ht.builders n)

/-- Behind a test in a group that a kept handle has opened inside another group, two groups are
open, and the builder is refused for them. -/
theorem Reaches.balanced_nested :
    let here : Site := ⟨none, false, false⟩
    let kept : Site := ⟨some "main", true, true⟩
    let test : Step := .plain here (.clause (.condition (.like (.text "a") (.text "x%") none none)))
    let steps : List Step :=
      [.plain here (.clause (.table (.text "t") none)),
        .block here (.group none)
          [test, .block kept (.group none) [test, .plain here (.raise "stop")], test]]
    let start : Session Direct := Session.start .standard (.ofTarget .sqlite) none .nothing false
    isRegularAll steps = true ∧
      ∃ t, Reaches steps start [0, 0] t ∧ (t.builder 0).Balanced 2 ∧
        (Builder.compile.run (t.builder 0)).1 = .error (.unclosedGroups "WHERE" 2) := by
  intro here kept test steps start
  have hsteps : isRegularAll steps = true := rfl
  have hpasses : ∃ t, Passes steps (.builder 0) start
      ([] ++ Block.opens (.group none) (.group 0) ++ Block.opens (.group none) (.group 0)) t ∧
        (Builder.compile.run (t.builder 0)).1 = .error (.unclosedGroups "WHERE" 2) :=
    ⟨_, .behind rfl (.inside rfl (.behind rfl (.inside rfl .after))), rfl⟩
  obtain ⟨t, hpasses, hcompile⟩ := hpasses
  have ht : Reaches steps start [0, 0] t := hpasses.reaches
  exact ⟨hsteps, t, ht, ht.balanced .standard (.ofTarget .sqlite) none .nothing false hsteps 0,
    hcompile⟩

/-- Inside a group call a select of a table may be refused for a column that is no text, and an
update with data for its missing table, before the open group is noticed. -/
theorem Reaches.refused_otherwise :
    let here : Site := ⟨none, false, false⟩
    let compile : Step := .plain ⟨some "main", true, false⟩ (.builder .compile)
    let group : Step := .block here (.group none) [compile]
    let selecting : List Step :=
      [.plain here (.clause (.table (.text "t") none)),
        .plain here (.clause (.select (some (.list [.int 1])))), group]
    let updating : List Step :=
      [.plain here (.clause (.update (.map [(.text "a", .int 1)]))), group]
    let start : Session Direct := Session.start .standard (.ofTarget .sqlite) none .nothing false
    (isRegularAll selecting = true ∧ ∃ t, Reaches selecting start [0] t ∧
      (t.builder 0).query.kind = .select ∧ (t.builder 0).query.table.truthy = true ∧
      (Builder.compile.run (t.builder 0)).1 = .error .mistyped) ∧
    isRegularAll updating = true ∧ ∃ t, Reaches updating start [0] t ∧
      (t.builder 0).query.kind = .update ∧ (t.builder 0).query.update.isEmpty = false ∧
      (Builder.compile.run (t.builder 0)).1 = .error .noTable := by
  intro here compile group selecting updating start
  have hselecting : ∃ t, Passes selecting (.builder 0) start
      ([] ++ Block.opens (.group none) (.group 0)) t ∧ (t.builder 0).query.kind = .select ∧
        (t.builder 0).query.table.truthy = true ∧
        (Builder.compile.run (t.builder 0)).1 = .error .mistyped :=
    ⟨_, .behind rfl (.behind rfl (.inside rfl .start)), rfl, rfl, rfl⟩
  have hupdating : ∃ t, Passes updating (.builder 0) start
      ([] ++ Block.opens (.group none) (.group 0)) t ∧ (t.builder 0).query.kind = .update ∧
        (t.builder 0).query.update.isEmpty = false ∧
        (Builder.compile.run (t.builder 0)).1 = .error .noTable :=
    ⟨_, .behind rfl (.inside rfl .start), rfl, rfl, rfl⟩
  obtain ⟨t, hpasses, ht⟩ := hselecting
  obtain ⟨u, hpasses', hu⟩ := hupdating
  exact ⟨⟨rfl, t, hpasses.reaches, ht⟩, rfl, u, hpasses'.reaches, hu⟩

end Step

end BoundSql
