import BoundSql.Proofs.Session.Happenings

/-!
# What lasts of a run

A scope begins a transaction and ends it as its body came out, unless one is open already. So the
books of the connection say of every call what happened in it, and whenever no scope is under way
they hold what lasts of the run so far, and nothing else.
-/

namespace BoundSql

open Attempt

variable {L : Type} [Connection L]

/-- A run on the line is a run of the frame that changes nothing else. -/
theorem Frame.run_within_line {α : Type} (act : Attempt (Line L) α) {fr : Frame L}
    {outcome : Except Failure α} {l : Line L} (h : act.run fr.session.line = (outcome, l)) :
    (act.within linePart).run fr = (outcome, linePart.put l fr) := by
  rw [run_within]
  dsimp only [linePart]
  rw [h]

/-- What keeps everything leaves a frame as it is. -/
theorem Frame.run_within_session {α : Type} {act : Attempt (Session L) α}
    (h : ∀ P : Session L → Prop, Keeps P act) (fr : Frame L) :
    ∃ outcome, (act.within sessionPart).run fr = (outcome, fr) := by
  have hsame : (act.run fr.session).2 = fr.session := h (· = fr.session) fr.session rfl
  refine ⟨(act.run fr.session).1, ?_⟩
  rw [run_within]
  dsimp only [sessionPart]
  rw [hsame]

variable [Bookkeeper L] {k : Books}

namespace Line

/-- A begin is entered into the books if it passes, and leaves them as they are if it does not. -/
theorem has_begin (absent : Failure) {l : Line L} (hopen : k.isOpen = false) (h : l.Has k) :
    let r := (signal absent Connection.begin .transactionBegin).run l
    r.2.Has (if r.1.isOk then k.begun else k) := by
  obtain ⟨link, hlink, hof⟩ := h
  rcases hact : Connection.begin.run link with ⟨outcome, link'⟩
  have hafter := Bookkeeper.begin k link link' outcome hopen hof hact
  rw [signal, run_bind, run_ask absent _ hlink, hact]
  cases outcome with
  | ok _ => exact ⟨link', rfl, hafter⟩
  | error f => exact ⟨link', rfl, hafter⟩

/-- A commit always passes and makes lasting what waits. -/
theorem has_commit (absent : Failure) {l : Line L} (h : l.Has k) :
    ∃ l', (signal absent Connection.commit .transactionCommit).run l = (.ok (), l') ∧
      l'.Has k.committed := by
  obtain ⟨link, hlink, hof⟩ := h
  obtain ⟨link', hact, hafter⟩ := Bookkeeper.commit k link hof
  rw [signal, run_bind, run_ask absent _ hlink, hact]
  exact ⟨_, rfl, link', rfl, hafter⟩

/-- A rollback always passes and drops what waits. -/
theorem has_rollback (absent failure : Failure) {l : Line L} (h : l.Has k) :
    ∃ l', (signal absent Connection.rollback (.transactionRollback failure)).run l = (.ok (), l') ∧
      l'.Has k.rolledBack := by
  obtain ⟨link, hlink, hof⟩ := h
  obtain ⟨link', hact, hafter⟩ := Bookkeeper.rollback k link hof
  rw [signal, run_bind, run_ask absent _ hlink, hact]
  exact ⟨_, rfl, link', rfl, hafter⟩

/-- Whether a transaction is open is read off the books. -/
theorem run_inTransaction (absent : Failure) {l : Line L} (h : l.Has k) :
    (ask absent (do return Connection.inTransaction (← .state))).run l = (.ok k.isOpen, l) := by
  obtain ⟨link, hlink, _, rfl⟩ := h
  rw [run_ask_inTransaction absent hlink, Bookkeeper.inTransaction]
  rfl

end Line

namespace Frame

/-- The books of the connection inside a frame. -/
abbrev Has (k : Books) (fr : Frame L) : Prop := fr.session.line.Has k

/-- The end of a scope comes out as its body did, which is committed or rolled back. -/
theorem has_conclude (absent : Failure) (result : Except Failure Unit) {fr : Frame L}
    (h : fr.Has k) :
    let r := (Line.conclude absent linePart result).run fr
    r.1 = result ∧ r.2.Has (if result.isOk then k.committed else k.rolledBack) := by
  cases result with
  | ok a =>
    obtain ⟨l, hact, hhas⟩ := Line.has_commit absent h
    dsimp only
    rw [Line.conclude, run_bind, run_within_line _ hact]
    exact ⟨rfl, hhas⟩
  | error f =>
    obtain ⟨l, hact, hhas⟩ := Line.has_rollback absent f h
    dsimp only
    rw [Line.conclude, run_bind, run_within_line _ hact]
    exact ⟨rfl, hhas⟩

/-- A scope that is not entered leaves the books as they are. One that is entered leaves in them
what its body did: joined to the open transaction, or committed or rolled back as it came out. -/
theorem has_transactional (absent : Failure) (hk : k.Settled) {fr : Frame L} (h : fr.Has k)
    (body : Attempt (Frame L) Unit) :
    let scope := (Line.transactional absent linePart body).run fr
    match (Line.enter absent linePart).run fr with
    | (.error failure, fr') => scope = (.error failure, fr') ∧ fr'.Has k
    | (.ok _, fr') => ∃ k' : Books, k'.Settled ∧ fr'.Has k' ∧
      ∀ inside, (body.run fr').2.Has (k'.after inside) →
        scope.2.Has (k.after [.scope scope.1.isOk inside]) := by
  have hjoins : ((Line.ask absent (do return Connection.inTransaction (← .state))).within
      linePart).run fr = (.ok k.isOpen, fr) :=
    run_within_line _ (Line.run_inTransaction absent h)
  dsimp only
  rw [Line.enter, run_bind, hjoins, Line.transactional, run_bind, hjoins]
  dsimp only
  cases hopen : k.isOpen with
  | true =>
    refine ⟨k, hk, h, fun inside hbody => ?_⟩
    rw [Books.after_joined hopen]
    exact hbody
  | false =>
    have hbegin := Line.has_begin absent hopen h
    rcases hact : (Line.signal absent Connection.begin .transactionBegin).run fr.session.line with
      ⟨outcome, l⟩
    rw [hact] at hbegin
    simp only [Bool.false_eq_true, if_false]
    rw [run_bind, run_within_line _ hact]
    cases outcome with
    | error failure => exact ⟨rfl, hbegin⟩
    | ok _ =>
      refine ⟨k.begun, k.settled_begun, hbegin, fun inside hbody => ?_⟩
      dsimp only
      rw [run_bind, run_outcome]
      obtain ⟨hresult, hhas⟩ := has_conclude absent (body.run (linePart.put l fr)).1 hbody
      dsimp only
      rw [hresult, ← Books.concluded_after_begun hk hopen]
      exact hhas

/-- The same of a scope that answers with something else than its body. -/
theorem has_scope (absent : Failure) (hk : k.Settled) {fr : Frame L} (h : fr.Has k)
    (body : Attempt (Frame L) Unit) (answer : Answer) :
    let scope := (Line.transactional absent linePart body >>= fun _ => pure answer).run fr
    match (Line.enter absent linePart).run fr with
    | (.error failure, fr') => scope = (.error failure, fr') ∧ fr'.Has k
    | (.ok _, fr') => ∃ k' : Books, k'.Settled ∧ fr'.Has k' ∧
      ∀ inside, (body.run fr').2.Has (k'.after inside) →
        scope.2.Has (k.after [.scope scope.1.isOk inside]) := by
  have hscope := has_transactional absent hk h body
  dsimp only at hscope ⊢
  rw [run_bind]
  rcases henter : (Line.enter absent linePart).run fr with ⟨entered, fr'⟩
  rw [henter] at hscope
  cases entered with
  | error failure =>
    rw [hscope.1]
    exact ⟨rfl, hscope.2⟩
  | ok _ =>
    obtain ⟨k', hk', hfr', hafter⟩ := hscope
    refine ⟨k', hk', hfr', fun inside hbody => ?_⟩
    have hend := hafter inside hbody
    rcases hrun : (Line.transactional absent linePart body).run fr with ⟨result, t⟩
    rw [hrun] at hend
    cases result with
    | ok _ => exact hend
    | error failure => exact hend

end Frame

namespace Step

mutual

/-- Whether a step leaves transactions to scopes. -/
def usesScopes : Step → Bool
  | plain _ action => action.usesScopes
  | block _ _ body => usesScopesAll body

/-- Whether steps leave transactions to scopes. -/
def usesScopesAll : List Step → Bool
  | [] => true
  | step :: rest => usesScopes step && usesScopesAll rest

end

theorem usesScopesAll_append {front back : List Step} :
    usesScopesAll (front ++ back) = true ↔
      usesScopesAll front = true ∧ usesScopesAll back = true := by
  induction front with
  | nil => simp [usesScopesAll]
  | cons step rest ih => simp [usesScopesAll, ih, and_assoc]

/-- A call that runs no other steps leaves in the books what happened in it. -/
theorem has_plain (hk : k.Settled) (site : Site) {action : Action}
    (h : action.usesScopes = true) (here : Receiver) {s : Session L} (hs : s.line.Has k) :
    (run (.plain site action) here s).2.line.Has
      (k.after (happenings (.plain site action) here s)) := by
  have htold := Action.told_perform hk site here h s (Line.told_of_has hs)
  obtain ⟨events, hlog, hhas⟩ := htold
  have hexecuted : s.executed (run (.plain site action) here s).2 = LogEvent.statements events := by
    have hline : (run (.plain site action) here s).2.line.log = s.line.log ++ events := hlog
    rw [Session.executed, hline, List.drop_left]
  rw [happenings, hexecuted, Books.after_statements]
  exact hhas

end Step

/-- A call with steps inside it that is not entered leaves the books as they are. One that is
entered leaves in them what happened in its body, as a scope if it is one. -/
theorem Block.has_around (hk : k.Settled) (site : Site) (here : Receiver) (b : Block)
    (body : Receiver → Attempt (Frame L) Unit) (count : Nat) {fr : Frame L} (h : fr.Has k) :
    let call := (b.around site here body count).run fr
    match (b.enter site here).run fr with
    | (.error failure, fr') => call = (.error failure, fr') ∧ fr'.Has k
    | (.ok receiver, fr') => ∃ k' : Books, k'.Settled ∧ fr'.Has k' ∧
      ∀ inside, ((body receiver).run fr').2.Has (k'.after inside) →
        call.2.Has (k.after (if b.isScope then [.scope call.1.isOk inside] else inside)) := by
  dsimp only
  cases b with
  | group connector =>
    obtain ⟨outcome, hfound⟩ :=
      Frame.run_within_session (fun _ => Session.keeps_receiverOf site here) fr
    rw [enter, around, run_bind, run_bind, hfound]
    cases outcome with
    | error failure => exact ⟨rfl, h⟩
    | ok found =>
      dsimp only
      cases Connector.ofArgument connector with
      | error failure => exact ⟨rfl, h⟩
      | ok c =>
        refine ⟨k, hk, h, fun inside hbody => ?_⟩
        have hclosed : Frame.Has (k.after inside) (((body (.group found.number)).ensuring
            (addToken found.number .closing)).run (addToken found.number (.opening c) fr)).2 :=
          hbody
        have hreturned : Keeps (Frame.Has (L := L) (k.after inside))
            ((Session.returned found).within Frame.sessionPart) := fun t ht =>
          Session.keeps_returned (P := fun s => s.line.Has (k.after inside)) found t.session ht
        have hend := holds_bind hclosed fun _ t _ => hreturned t
        exact hend
  | transaction =>
    obtain ⟨outcome, hfound⟩ :=
      Frame.run_within_session (fun _ => Session.keeps_needBuilder site here) fr
    rw [enter, around, run_bind, run_bind, hfound]
    cases outcome with
    | error failure => exact ⟨rfl, h⟩
    | ok n =>
      have hscope := Frame.has_scope .noConnection hk h (body (.builder n)) (.number count)
      dsimp only at hscope ⊢
      rw [run_bind]
      rcases henter : (Line.enter .noConnection Frame.linePart).run fr with ⟨entered, fr'⟩
      rw [henter] at hscope
      cases entered with
      | error failure => exact hscope
      | ok _ => exact hscope
  | preserve =>
    obtain ⟨outcome, hfound⟩ :=
      Frame.run_within_session (fun _ => Session.keeps_needBuilder site here) fr
    rw [enter, around, run_bind, run_bind, hfound]
    cases outcome with
    | error failure => exact ⟨rfl, h⟩
    | ok n =>
      refine ⟨k, hk, h, fun inside hbody => ?_⟩
      have hkept : Frame.Has (k.after inside)
          ((Attempt.preserving (Frame.builderPart n) (body (.builder n))).run fr).2 := hbody
      have hend := holds_bind hkept fun _ t _ => Keeps.pure (Answer.number count) t
      exact hend
  | newTransaction register =>
    have hscope := Frame.has_scope .absentCall hk h
      ((Session.newBuilder register).within Frame.sessionPart >>= fun n => body (.builder n))
      (.number count)
    dsimp only at hscope
    rw [enter, run_bind]
    rcases henter : (Line.enter .absentCall Frame.linePart).run fr with ⟨entered, fr'⟩
    rw [henter] at hscope
    cases entered with
    | error failure => exact hscope
    | ok _ => exact hscope

/-- A call that is no scope leaves the books as they are before its steps run. -/
theorem Block.has_enter {b : Block} (hscope : b.isScope = false) {site : Site}
    {here receiver : Receiver} {fr fr' : Frame L} (h : fr.Has k)
    (henter : (b.enter site here).run fr = (.ok receiver, fr')) :
    fr'.Has k := by
  cases b with
  | group connector =>
    obtain ⟨found, mid, hfound, hrest⟩ := run_bind_eq_ok henter
    obtain ⟨outcome, hsame⟩ :=
      Frame.run_within_session (fun _ => Session.keeps_receiverOf site here) fr
    rw [hsame] at hfound
    cases hfound
    obtain ⟨_, _, hrest⟩ := run_ofExcept_bind_eq_ok hrest
    cases hrest
    exact h
  | preserve =>
    obtain ⟨n, mid, hfound, hrest⟩ := run_bind_eq_ok henter
    obtain ⟨outcome, hsame⟩ :=
      Frame.run_within_session (fun _ => Session.keeps_needBuilder site here) fr
    rw [hsame] at hfound
    cases hfound
    cases hrest
    exact h
  | transaction => cases hscope
  | newTransaction register => cases hscope

namespace Step

/-- A call with steps inside it leaves in the books what happened in it, if the steps do for
whatever receiver they are given. -/
theorem has_block (hk : k.Settled) (site : Site) (b : Block) {body : List Step}
    (hbody : ∀ {k : Books}, k.Settled → ∀ receiver (s : Session L), s.line.Has k →
      (runAll body receiver s).2.2.line.Has (k.after (happeningsAll body receiver s)))
    (here : Receiver) {s : Session L} (hs : s.line.Has k) :
    (run (.block site b body) here s).2.line.Has
      (k.after (happenings (.block site b body) here s)) := by
  have hstart : Frame.Has k (⟨s, none⟩ : Frame L) := hs
  have haround := Block.has_around hk site here b (inside body) body.length hstart
  dsimp only at haround
  rcases henter : (b.enter site here).run (⟨s, none⟩ : Frame L) with ⟨entered, fr⟩
  rw [henter] at haround
  cases entered with
  | error failure =>
    obtain ⟨hcall, hhas⟩ := haround
    rw [happenings_refused henter, Books.after_nil, run_block]
    dsimp only
    rw [hcall]
    exact hhas
  | ok receiver =>
    obtain ⟨k', hk', hfr, hafter⟩ := haround
    have hinside : ((inside body receiver).run fr).2.Has
        (k'.after (happeningsAll body receiver fr.session)) := hbody hk' receiver _ hfr
    rw [happenings_entered henter, run_block]
    exact hafter _ hinside

mutual

/-- A step leaves in the books what happened in it. -/
theorem has_run (step : Step) (h : step.usesScopes = true) {k : Books} (hk : k.Settled)
    (here : Receiver) {s : Session L} (hs : s.line.Has k) :
    (run step here s).2.line.Has (k.after (happenings step here s)) := by
  match step with
  | .plain site action => exact has_plain hk site h here hs
  | .block site b body =>
    exact has_block hk site b (fun hk receiver _ hs => has_runAll body h hk receiver hs) here hs

/-- Steps leave in the books what happened in them, wherever they end. -/
theorem has_runAll (steps : List Step) (h : usesScopesAll steps = true) {k : Books}
    (hk : k.Settled) (here : Receiver) {s : Session L} (hs : s.line.Has k) :
    (runAll steps here s).2.2.line.Has (k.after (happeningsAll steps here s)) := by
  match steps with
  | [] =>
    rw [happeningsAll, Books.after_nil]
    exact hs
  | step :: rest =>
    obtain ⟨hstep, hrest⟩ := Bool.and_eq_true_iff.mp h
    have hmid := has_run step hstep hk here hs
    rw [runAll_cons, happeningsAll, Books.after_append]
    dsimp only
    cases stops step (run step here s).1 with
    | some failure =>
      rw [Books.after_nil]
      exact hmid
    | none => exact has_runAll rest hrest (hk.after _) here hmid

end

/-- Outside of the scopes of a run the books are those from before after what has happened. -/
theorem Rests.has {steps : List Step} {here : Receiver} {s t : Session L} {past : List Happening}
    (h : Rests steps here s past t) (hsteps : usesScopesAll steps = true) (hk : k.Settled)
    (hs : s.line.Has k) : t.line.Has (k.after past) := by
  induction h generalizing k with
  | start =>
    rw [Books.after_nil]
    exact hs
  | after =>
    obtain ⟨hstep, _⟩ := Bool.and_eq_true_iff.mp hsteps
    exact has_run _ hstep hk _ hs
  | behind _ _ ih =>
    obtain ⟨hstep, hrest⟩ := Bool.and_eq_true_iff.mp hsteps
    rw [Books.after_append]
    exact ih hrest (hk.after _) (has_run _ hstep hk _ hs)
  | inside hscope henter _ ih =>
    obtain ⟨hstep, _⟩ := Bool.and_eq_true_iff.mp hsteps
    have hstart : Frame.Has k (⟨_, none⟩ : Frame L) := hs
    exact ih hstep hk (Block.has_enter hscope hstart henter)

/-- A script leaves in the books what happened in it. -/
theorem has_played (steps : List Step) (h : usesScopesAll steps = true) (hk : k.Settled)
    {s : Session L} (hs : s.line.Has k) :
    (played steps s).2.line.Has (k.after (played steps s).1) := by
  induction steps using List.reverseRecOn with
  | nil =>
    show Line.Has (k.after []) s.line
    rw [Books.after_nil]
    exact hs
  | append_singleton front step ih =>
    obtain ⟨hfront, hstep⟩ := usesScopesAll_append.mp h
    obtain ⟨hstep, _⟩ := Bool.and_eq_true_iff.mp hstep
    rw [played_concat]
    dsimp only
    rw [Books.after_append]
    exact has_run step hstep (hk.after _) (.builder 0) (ih hfront)

/-- Whenever no scope of a script is under way, the books are those from before after what has
happened. -/
theorem ComesToRest.has {steps : List Step} {s t : Session L} {past : List Happening}
    (h : ComesToRest steps s past t) (hsteps : usesScopesAll steps = true) (hk : k.Settled)
    (hs : s.line.Has k) : t.line.Has (k.after past) := by
  obtain ⟨front, back, recent, rfl, rfl, hrests⟩ := h
  obtain ⟨hfront, hback⟩ := usesScopesAll_append.mp hsteps
  have hplayed := has_played front hfront hk hs
  rw [played_session] at hplayed
  rw [Books.after_append]
  exact hrests.has hback (hk.after _) hplayed

/-- Where a script starts with no transaction open, none is open whenever none of its scopes is
under way, and what has been committed since is what lasts of the run so far. -/
theorem ComesToRest.settled {steps : List Step} {s t : Session L} {past : List Happening}
    (h : ComesToRest steps s past t) (hsteps : usesScopesAll steps = true) {link : L}
    (hlink : s.line.link = some link) (hreliable : Accounts.Reliable link)
    (hclosed : (Accounts.wire.get link).inTransaction = false)
    (hpending : (Accounts.wire.get link).ledger.pending = []) :
    ∃ link', t.line.link = some link' ∧ (Accounts.wire.get link').inTransaction = false ∧
      (Accounts.wire.get link').ledger =
        ⟨[], (Accounts.wire.get link).ledger.committed ++ Happening.lastingAll past⟩ := by
  have hk : (Accounts.wire.get link).books.Settled := fun _ => hpending
  have hs : s.line.Has (Accounts.wire.get link).books := ⟨link, hlink, hreliable, rfl⟩
  obtain ⟨link', hlink', _, hbooks⟩ := h.has hsteps hk hs
  rw [hk.after_closed hclosed] at hbooks
  exact ⟨link', hlink', congrArg Books.isOpen hbooks, congrArg Books.ledger hbooks⟩

/-- For either adapter, whose driver may open a transaction for any statement: where a script that
leaves transactions to scopes starts with none open, none is open and nothing waits whenever none of
its scopes is under way. What has been committed since are, in the order in which they ran, the
statements outside of its scopes and all those inside an outermost scope that returned. -/
theorem ComesToRest.commits_lasting {steps : List Step} (hsteps : usesScopesAll steps = true) :
    (∀ (s t : Session CursorLink) (past : List Happening) (link : CursorLink),
      s.line.link = some link → link.Reliable → link.wire.inTransaction = false →
      link.wire.ledger.pending = [] → ComesToRest steps s past t →
        ∃ link', t.line.link = some link' ∧ link'.wire.inTransaction = false ∧
          link'.wire.ledger = ⟨[], link.wire.ledger.committed ++ Happening.lastingAll past⟩) ∧
    (∀ (s t : Session BufferedLink) (past : List Happening) (link : BufferedLink),
      s.line.link = some link → link.Reliable → link.wire.inTransaction = false →
      link.wire.ledger.pending = [] → ComesToRest steps s past t →
        ∃ link', t.line.link = some link' ∧ link'.wire.inTransaction = false ∧
          link'.wire.ledger = ⟨[], link.wire.ledger.committed ++ Happening.lastingAll past⟩) :=
  ⟨fun _ _ _ _ hlink hreliable hclosed hpending h =>
      h.settled hsteps hlink hreliable hclosed hpending,
    fun _ _ _ _ hlink hreliable hclosed hpending h =>
      h.settled hsteps hlink hreliable hclosed hpending⟩

/-- A statement outside of scopes lasts, and so do both of a scope inside of which another one fails
and is caught. A scope that fails and a statement that fails leave nothing. -/
theorem ComesToRest.commits_lasting_nested :
    let here : Site := ⟨none, false, false⟩
    let execute : Step := .plain here (.builder .execute)
    let stop : Step := .plain here (.raise "stop")
    let deleting : String → List Step := fun table =>
      [.plain here (.clause (.table (.text table) none)), .plain here (.clause .delete), execute]
    let steps : List Step :=
      deleting "a" ++
        [.block here .transaction
          [execute, .block ⟨none, true, false⟩ (.newTransaction "tx") (deleting "b" ++ [stop])],
          .block here .transaction [execute, stop], execute]
    let lasting := ["DELETE FROM a WHERE 1=0", "DELETE FROM a WHERE 1=0", "DELETE FROM b WHERE 1=0"]
    let wire : Wire := .fresh false []
    let ran : CursorOutcome := ⟨true, none, none, [], none, .int 1⟩
    let failed : CursorOutcome := ⟨true, some ⟨.integrity, "UNIQUE"⟩, none, [], none, .int 0⟩
    let cursor : CursorLink := ⟨wire, [ran, ran, ran, ran, failed], .null, false⟩
    let ran' : BufferedOutcome := ⟨true, none, .int 1, .unavailable, none, [], none⟩
    let failed' : BufferedOutcome :=
      ⟨true, some ⟨.engine, "UNIQUE"⟩, .int 0, .unavailable, none, [], none⟩
    let buffered : BufferedLink :=
      ⟨wire, [ran', ran', ran', ran', failed'], false, false, "0", [], .null, false, []⟩
    let s : Session CursorLink := .start .standard (.ofTarget .sqlite) (some cursor) .nothing false
    let s' : Session BufferedLink :=
      .start .standard (.ofTarget .sqlite) (some buffered) .nothing false
    usesScopesAll steps = true ∧ cursor.Reliable ∧ buffered.Reliable ∧
      (∃ link, (play steps s).2.line.link = some link ∧ link.wire.inTransaction = false ∧
        link.wire.ledger = ⟨[], lasting⟩) ∧
      ∃ link, (play steps s').2.line.link = some link ∧ link.wire.inTransaction = false ∧
        link.wire.ledger = ⟨[], lasting⟩ := by
  intro here execute stop deleting steps lasting wire ran failed cursor ran' failed' buffered s s'
  have hsteps : usesScopesAll steps = true := rfl
  have hcursor : cursor.Reliable := ⟨nofun, nofun, by decide⟩
  have hbuffered : buffered.Reliable :=
    { commits := nofun
      rollsBack := nofun
      own := by
        intro o ho f hf
        have hscript : o = ran' ∨ o = failed' := by
          simpa [buffered] using ho
        rcases hscript with rfl | rfl
        · cases (show Except.ok [] = Except.error f from hf)
        · cases (show Except.error (.driver ⟨.engine, "UNIQUE"⟩) = Except.error f from hf)
          rfl
      whole := show ∀ o ∈ buffered.script, o.fault = none → o.result.isOk = true by decide }
  obtain ⟨hfirst, hsecond⟩ := commits_lasting hsteps
  have hrest : ComesToRest steps s ((played steps s).1 ++ []) (play steps s).2 :=
    ⟨steps, [], [], (List.append_nil _).symm, rfl, .start⟩
  have hrest' : ComesToRest steps s' ((played steps s').1 ++ []) (play steps s').2 :=
    ⟨steps, [], [], (List.append_nil _).symm, rfl, .start⟩
  have hlasting : Happening.lastingAll ((played steps s).1 ++ []) = lasting := by decide +kernel
  have hlasting' : Happening.lastingAll ((played steps s').1 ++ []) = lasting := by decide +kernel
  have hend := hfirst s _ _ cursor rfl hcursor rfl rfl hrest
  have hend' := hsecond s' _ _ buffered rfl hbuffered rfl rfl hrest'
  rw [hlasting] at hend
  rw [hlasting'] at hend'
  exact ⟨hsteps, hcursor, hbuffered, hend, hend'⟩

end Step

end BoundSql
