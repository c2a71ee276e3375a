import BoundSql.Proofs.Connection.Refusal
import BoundSql.Proofs.Desk.Paging
import BoundSql.Proofs.Statement.Refusal
import BoundSql.Session.Action

/-!
# Refusals reach no connection

A statement is rendered before the connection is called. So where a call on a builder fails because
its query is refused, nothing was called on the connection. A page renders twice, with calls in
between; but the window of a select renders where its count has rendered, unless a bound of the
window is too long.
-/

namespace BoundSql

open Attempt

variable {L α β : Type}

/-! ### What conversions fail with -/

/-- What is no integer is not refused as a query. -/
theorem Value.toInteger_foreign {v : Value} {failure : Failure} (h : v.toInteger = .error failure) :
    failure.Foreign := by
  unfold Value.toInteger at h
  split at h
  · cases h
  · cases h
  · split at h
    · cases h
      rfl
    · split at h <;> cases h
      rfl
  · split at h <;> cases h
    rfl
  · cases h
    rfl

/-- A number of pages that overflows is not refused as a query. -/
theorem Number.quotientCeil_foreign {i : Int} {n : Nat} {failure : Failure}
    (h : (Number.int n).quotientCeil i = .error failure) : failure.Foreign := by
  unfold Number.quotientCeil at h
  rcases hquotient : Number.quotient i (.int n) with other | x
  · rw [hquotient] at h
    cases h
    unfold Number.quotient at hquotient
    dsimp only at hquotient
    split at hquotient <;> cases hquotient
    rfl
  · rw [hquotient] at h
    dsimp only [bind, Except.bind] at h
    split at h <;> cases h
    rfl

/-- A count that cannot be read is not refused as a query. -/
theorem Desk.countOf_foreign {row : Option Row} {failure : Failure}
    (h : Desk.countOf row = .error failure) : failure.Foreign := by
  unfold Desk.countOf at h
  split at h
  · cases h
  · cases h
  · split at h
    · exact Value.toInteger_foreign h
    · cases h
      rfl

/-- A page that cannot be put together is not refused as a query. -/
theorem Desk.pageOf_foreign {page size : Nat} {answer : Int × List Row} {failure : Failure}
    (h : Desk.pageOf page size answer = .error failure) : failure.Foreign := by
  unfold Desk.pageOf at h
  rcases hpages : (Number.int size).quotientCeil answer.1 with other | pageCount
  · rw [hpages] at h
    cases h
    exact Number.quotientCeil_foreign hpages
  · rw [hpages] at h
    change Page.ofParts answer.2 answer.1 page (.int size) pageCount = _ at h
    rw [Page.ofParts_int] at h
    split at h <;> cases h
    rfl

/-! ### Attempts that are refused before they change anything -/

/-- Where the attempt fails with a refusal, it has changed nothing. -/
def Attempt.Refrains (act : Attempt L α) : Prop :=
  ∀ link failure link', act.run link = (.error failure, link') → failure.isRefusal = true →
    link' = link

namespace Attempt.Refrains

/-- What fails with foreign failures only refrains. -/
theorem of_failsOnly {act : Attempt L α} (h : FailsOnly Failure.Foreign act) : Refrains act := by
  intro link failure link' hrun hrefusal
  have hforeign : failure.Foreign := h link failure (by rw [hrun])
  rw [hforeign] at hrefusal
  cases hrefusal

protected theorem ofExcept (e : Except Failure α) :
    Refrains (Attempt.ofExcept e : Attempt L α) := by
  intro link failure link' hrun _
  rw [run_ofExcept] at hrun
  cases hrun
  rfl

/-- What was found beforehand is refused before anything changes. -/
theorem ofExcept_bind {e : Except Failure α} {next : α → Attempt L β}
    (h : ∀ a, e = .ok a → Refrains (next a)) : Refrains (Attempt.ofExcept e >>= next) := by
  cases e with
  | ok a => exact h a rfl
  | error failure => exact .ofExcept (.error failure)

end Attempt.Refrains

namespace Connection

variable [Connection L]

/-- Using a statement fails as its use does. -/
theorem failsOnly_use {act : Attempt (Statement L × L) α} (h : FailsOnly Failure.Foreign act)
    (statement : Statement L) : FailsOnly Failure.Foreign (use statement act) := by
  intro link failure hrun
  rw [run_use] at hrun
  rcases hact : (act.run (statement, link)).1 with other | a
  · rw [hact] at hrun
    cases hrun
    exact h _ _ hact
  · rw [hact] at hrun
    cases hrun

variable [Discreet L]

/-- Binding values refuses no query. -/
theorem failsOnly_bindAll (params : Bindings) (statement : Statement L) :
    FailsOnly Failure.Foreign (bindAll statement params) := by
  induction params generalizing statement with
  | nil => exact .pure statement
  | cons param rest ih =>
    exact (failsOnly_use (Discreet.bind param.1 param.2) statement).bind fun answer => ih answer.2

/-- A rendered statement that is served is not refused any more. -/
theorem failsOnly_serve (c : Compiled) : FailsOnly Failure.Foreign (serve c : Attempt L _) :=
  (Discreet.prepare c.sql).bind fun statement => (failsOnly_bindAll c.params statement).bind
    fun statement => (failsOnly_use Discreet.execute statement).bind fun _ => .pure _

/-- Fetching the first row refuses no query. -/
theorem failsOnly_firstRow (c : Compiled) : FailsOnly Failure.Foreign (firstRow c : Attempt L _) :=
  (failsOnly_serve c).bind fun statement =>
    (failsOnly_use Discreet.fetch statement).bind fun _ => .pure _

/-- Fetching all rows refuses no query. -/
theorem failsOnly_allRows (c : Compiled) : FailsOnly Failure.Foreign (allRows c : Attempt L _) :=
  (failsOnly_serve c).bind fun statement =>
    (failsOnly_use Discreet.fetchAll statement).bind fun _ => .pure _

/-- Reading a count refuses no query. -/
theorem failsOnly_counted (c : Compiled) :
    FailsOnly Failure.Foreign (counted (.ok c) : Attempt L Int) :=
  (failsOnly_firstRow c).bind fun _ => .ofExcept fun _ h => Desk.countOf_foreign h

end Connection

/-! ### The two statements of a page -/

namespace Builder

variable {b : Builder} {size start : Nat} {c : Compiled}

/-- Only a select with a table is counted. -/
theorem select_of_compileCount (h : (compileCount.run b).1 = .ok c) :
    b.query.kind = .select ∧ b.query.requireTable = .ok () := by
  have hkind : b.query.kind = .select := by
    by_contra hother
    rw [compileCount, run_bind, run_requireKind_of_ne hother] at h
    cases h
  exact ⟨hkind, requireTable_of_compileCount hkind h⟩

/-- Where the count of a select renders, its window renders exactly if its bounds can be written. -/
theorem compile_windowed_of_count (hcolumns : Query.AllTexts b.query.columns)
    (h : (compileCount.run b).1 = .ok c) (size start : Nat) :
    if (toString size).length ≤ Text.maxDigits ∧ (toString start).length ≤ Text.maxDigits then
      ∃ window, (compile.run (b.windowed size start)).1 = .ok window
    else (compile.run (b.windowed size start)).1 = .error .malformed := by
  obtain ⟨hkind, htable⟩ := select_of_compileCount h
  obtain ⟨columns, htexts⟩ := hcolumns.columnTexts
  obtain ⟨body, binder, hbody, _⟩ := exists_body_of_compileCount hkind htable (fun _ => htexts) h
  rw [compile_of_body (b := b.windowed size start) hkind htable htexts hbody, windowed,
    Query.tailParts_window]
  split
  · exact ⟨_, rfl⟩
  · rfl

/-- Where the count of a select has rendered, its window is not refused. -/
theorem compile_windowed_foreign (h : (compileCount.run b).1 = .ok c) {failure : Failure}
    (h' : (compile.run (b.windowed size start)).1 = .error failure) : failure.Foreign := by
  obtain ⟨hkind, htable⟩ := select_of_compileCount h
  rcases hcolumns : Query.columnTexts b.query.columns with other | texts
  · have hrender : ∀ q : Query, q.kind = .select → q.requireTable = .ok () →
        Query.columnTexts q.columns = .error other → q.render b.dialect = fail other := by
      intro q hkind htable hcolumns
      rw [Query.render, hkind]
      dsimp only
      rw [Query.renderSelect_eq, htable, hcolumns]
      rfl
    have hfailure := compile_eq_error.mp h'
    rw [show (b.windowed size start).query.render (b.windowed size start).dialect = fail other from
      hrender _ hkind htable hcolumns] at hfailure
    cases hfailure
    rw [(Query.columnTexts_eq_error hcolumns).1]
    rfl
  · obtain ⟨rfl, _⟩ :=
      compile_windowed_eq_error hkind (Query.allTexts_of_columnTexts hcolumns) h h'
    rfl

end Builder

namespace Desk

/-- Where the attempt fails with a refusal, the connection is as it was. -/
def Withholds (act : Attempt (Desk L) α) (b : Builder) : Prop :=
  ∀ link log failure, (act.run ⟨b, ⟨some link, log⟩⟩).1 = .error failure →
    failure.isRefusal = true → (act.run ⟨b, ⟨some link, log⟩⟩).2.line.link = some link

namespace Withholds

variable {b : Builder}

/-- What an attempt does on the connection is refused before it changes anything there. -/
theorem of_comes {act : Attempt (Desk L) α} {there : Attempt L α}
    (h : ∀ link, ∃ b', Comes act b link (there.run link).1 b' (there.run link).2)
    (hthere : there.Refrains) : Withholds act b := by
  intro link log failure hrun hrefusal
  obtain ⟨b', hcomes⟩ := h link
  obtain ⟨log', hact⟩ := hcomes log
  rw [hact] at hrun ⊢
  exact congrArg some (hthere link failure _ (Prod.ext hrun rfl) hrefusal)

/-- What comes behind an attempt must not be refused. -/
theorem bind_foreign {act : Attempt (Desk L) α} {next : α → Attempt (Desk L) β}
    (h : Withholds act b) (hn : ∀ a, FailsOnly Failure.Foreign (next a)) :
    Withholds (act >>= next) b := by
  intro link log failure hrun hrefusal
  have hfirst := h link log failure
  rw [run_bind] at hrun ⊢
  rcases hact : act.run ⟨b, ⟨some link, log⟩⟩ with ⟨other | a, d⟩
  · rw [hact] at hrun hfirst
    cases hrun
    exact hfirst rfl hrefusal
  · rw [hact] at hrun
    have hforeign : failure.Foreign := hn a d failure hrun
    rw [hforeign] at hrefusal
    cases hrefusal

/-- A call for one kind of statement is refused for another one before anything is called. -/
theorem requireKind (call : KindedCall) {next : Unit → Attempt (Desk L) α}
    (h : b.query.kind = call.kind → Withholds (next ()) b) :
    Withholds ((Builder.requireKind call).within builderPart >>= next) b := by
  intro link log failure
  have hget : (builderPart : Part (Desk L) Builder).get ⟨b, ⟨some link, log⟩⟩ = b := rfl
  rw [run_bind, run_within, hget]
  by_cases hkind : b.query.kind = call.kind
  · rw [Builder.run_requireKind_of_eq hkind]
    exact h hkind link log failure
  · rw [Builder.run_requireKind_of_ne hkind]
    exact fun _ _ => rfl

end Withholds

variable [Connection L]

/-- The page of a select on the connection: its count is served, then its window. -/
def pageThere (b : Builder) (page size start : Nat) : Attempt L Page := do
  let total ← Connection.counted (Builder.compileCount.run b).1
  let rows ← (do Connection.allRows (← .ofExcept (Builder.compile.run (b.windowed size start)).1) :
    Attempt L (List Row))
  .ofExcept (pageOf page size (total, rows))

/-- A page is fetched with the rendered count and the rendered window, and the builder stands as it
stood. -/
theorem comes_pageThere (settings : Settings) (page : Int) (asked : Option Int) (b : Builder)
    (link : L) :
    let n := (max 1 page).toNat
    let size := settings.clamped asked
    let there : Attempt L Page := pageThere b n size ((n - 1) * size)
    Comes (paginate settings (some (.int page)) (asked.map .int)) b link (there.run link).1 b
      (there.run link).2 := by
  intro n size there
  have htotal := comes_countTotal b link
  dsimp only [there]
  rw [pageThere, run_bind]
  rcases hcounted : (Connection.counted (L := L) (Builder.compileCount.run b).1).run link with
    ⟨failure | total, link'⟩
  · rw [hcounted] at htotal
    exact comes_paginate htotal.bind_error rfl
  · rw [hcounted] at htotal
    have hwindow := comes_window b link' size (n - 1)
    have hback := Builder.restore_windowed b size ((n - 1) * size)
    dsimp only at hwindow ⊢
    rw [run_bind]
    rcases hrows : (ofExcept (Builder.compile.run (b.windowed size ((n - 1) * size))).1 >>=
        Connection.allRows (L := L)).run link' with ⟨failure | rows, link''⟩
    · rw [hrows] at hwindow
      exact comes_paginate (htotal.bind_ok hwindow.bind_error) hback
    · rw [hrows] at hwindow
      dsimp only
      rw [run_ofExcept]
      exact comes_paginate (htotal.bind_ok (hwindow.bind_ok (.pure (total, rows)))) hback

variable [Connection.Discreet L] {b : Builder}

namespace Withholds

/-- A statement that is run is refused before anything is called. -/
theorem run_bind {next : Connection.Statement L → Attempt (Desk L) α}
    {nextThere : Connection.Statement L → Attempt L α}
    (hn : ∀ statement, OnLink (next statement) (nextThere statement))
    (hthere : ∀ statement, FailsOnly Failure.Foreign (nextThere statement)) :
    Withholds (run >>= next) b := by
  have hrun : run >>= next = Builder.compile.within builderPart >>= fun c =>
      runCompiled c >>= next := bind_assoc ..
  rw [hrun]
  refine of_comes (fun link => ⟨_, OnLink.comes_bind (Comes.within_builder Builder.compile b link)
    fun c => (onLink_runCompiled c).bind hn⟩) (.ofExcept_bind fun c _ => .of_failsOnly ?_)
  exact (Connection.failsOnly_serve c).bind hthere

/-- A builder that is refused is not run, -/
theorem run : Withholds (Desk.run : Attempt (Desk L) _) b := by
  rw [← bind_pure (Desk.run : Attempt (Desk L) _)]
  exact run_bind (fun statement => .pure statement) fun statement => .pure statement

theorem get : Withholds (Desk.get : Attempt (Desk L) _) b :=
  run_bind (fun statement => (onLink_use statement Connection.fetchAll).bind fun _ => .pure _)
    fun statement =>
      (Connection.failsOnly_use Connection.Discreet.fetchAll statement).bind fun _ => .pure _

theorem first : Withholds (Desk.first : Attempt (Desk L) _) b := by
  have hfetch : Withholds (Desk.run >>= fetchFirst : Attempt (Desk L) _)
      { b with query := { b.query with limit := some (b.query.limit.getD 1) } } :=
    run_bind (fun statement => (onLink_use statement Connection.fetch).bind fun _ => .pure _)
      fun statement =>
        (Connection.failsOnly_use Connection.Discreet.fetch statement).bind fun _ => .pure _
  exact fun link log => hfetch link log

theorem value (column : Value) : Withholds (Desk.value column : Attempt (Desk L) _) b := by
  refine first.bind_foreign fun row => ?_
  split
  · exact .pure _
  · split
    · exact .pure _
    · exact .fail rfl

theorem count : Withholds (Desk.count : Attempt (Desk L) _) b := by
  by_cases hkind : b.query.kind = .select
  · refine of_comes (fun link => ⟨_, comes_count hkind link⟩) ?_
    rcases (Builder.compile.run b.counting).1 with failure | c
    · exact .ofExcept (.error failure)
    · exact .of_failsOnly (Connection.failsOnly_counted c)
  · exact requireKind .count fun h => absurd h hkind

theorem execute : Withholds (Desk.execute : Attempt (Desk L) _) b :=
  run_bind (fun statement => (onLink_use statement Connection.rowCount).bind fun _ => .pure _)
    fun statement =>
      (Connection.failsOnly_use Connection.Discreet.rowCount statement).bind fun _ => .pure _

theorem insertGetId : Withholds (Desk.insertGetId : Attempt (Desk L) _) b :=
  requireKind .insertGetId fun _ => run_bind (fun _ => OnLink.ask Connection.lastInsertId)
    fun _ => Connection.Discreet.lastInsertId

/-- A page whose count does not render is refused before anything is called, and a page whose count
renders is not refused. -/
theorem paginate (settings : Settings) (page : Int) (asked : Option Int) :
    Withholds (Desk.paginate settings (some (.int page)) (asked.map .int) : Attempt (Desk L) _)
      b := by
  refine of_comes (fun link => ⟨_, comes_pageThere settings page asked b link⟩) ?_
  unfold pageThere
  rcases hcount : (Builder.compileCount.run b).1 with failure | c
  · exact .ofExcept (.error failure)
  · refine .of_failsOnly ((Connection.failsOnly_counted c).bind fun total => ?_)
    refine ((FailsOnly.ofExcept fun _ h => ?_).bind Connection.failsOnly_allRows).bind fun rows =>
      .ofExcept fun _ h => pageOf_foreign h
    exact Builder.compile_windowed_foreign hcount h

end Withholds

end Desk

/-- The calls that run a statement of a builder; the pages among them are asked for by integers. -/
inductive BuilderCall.IsTerminal : BuilderCall → Prop
  | run : IsTerminal .run
  | get : IsTerminal .get
  | first : IsTerminal .first
  | value (column : Value) : IsTerminal (.value column)
  | count : IsTerminal .count
  | execute : IsTerminal .execute
  | insertGetId : IsTerminal .insertGetId
  | paginate (page perPage : Option Int) :
    IsTerminal (.paginate (page.map .int) (perPage.map .int))

namespace Session

variable [Connection L] {s : Session L} {link : L} {n : Nat} {failure : Failure}

/-- Where a call of a session fails with a refusal, its connection is as it was. -/
def Withholds (act : Attempt (Session L) α) (s : Session L) (link : L) : Prop :=
  ∀ failure, (act.run s).1 = .error failure → failure.isRefusal = true →
    (act.run s).2.line.link = some link

/-- A builder at the connection withholds in a session what it does on its own. -/
theorem withholds_within {act : Attempt (Desk L) α} (h : Desk.Withholds act (s.builder n))
    (hlink : s.line.link = some link) {next : α → Attempt (Session L) β}
    (hn : ∀ a, FailsOnly Failure.Foreign (next a)) :
    Withholds (act.within (deskPart n) >>= next) s link := by
  intro failure hrun hrefusal
  have hdesk : (deskPart n).get s = ⟨s.builder n, ⟨some link, s.line.log⟩⟩ := by
    rw [← hlink]
    rfl
  have hfirst := h link s.line.log failure
  rw [run_bind, run_within, hdesk] at hrun ⊢
  rcases hact : act.run ⟨s.builder n, ⟨some link, s.line.log⟩⟩ with ⟨other | a, d⟩
  · rw [hact] at hrun hfirst
    cases hrun
    exact hfirst rfl hrefusal
  · rw [hact] at hrun
    have hforeign : failure.Foreign := hn a _ failure hrun
    rw [hforeign] at hrefusal
    cases hrefusal

/-- A call that runs a statement is refused before anything is called. -/
theorem withholds_terminal [Connection.Discreet L] (hlink : s.line.link = some link)
    {call : BuilderCall} (hcall : call.IsTerminal) : Withholds (call.perform n) s link := by
  cases hcall with
  | run => exact withholds_within .run hlink fun _ => (FailsOnly.update _).bind fun _ => .pure _
  | get => exact withholds_within .get hlink fun _ => .pure _
  | first => exact withholds_within .first hlink fun _ => .pure _
  | value column => exact withholds_within (.value column) hlink fun _ => .pure _
  | count => exact withholds_within .count hlink fun _ => .pure _
  | execute => exact withholds_within .execute hlink fun _ => .pure _
  | insertGetId => exact withholds_within .insertGetId hlink fun _ => .pure _
  | paginate page perPage =>
    cases page with
    | none => exact withholds_within (.paginate s.settings 1 perPage) hlink fun _ => .pure _
    | some page => exact withholds_within (.paginate s.settings page perPage) hlink fun _ => .pure _

/-- Where a call that runs a statement is refused, nothing was called on the connection. A page is
fetched with two statements, and its window renders where its count does, unless a bound of the
window has too many digits. -/
theorem refused_untouched [Connection.Discreet L] (hlink : s.line.link = some link) (n : Nat) :
    let b := s.builder n
    (∀ call : BuilderCall, call.IsTerminal → ∀ failure s',
      (call.perform n).run s = (.error failure, s') → failure.isRefusal = true →
        s'.line.link = some link) ∧
    (∀ (page : Int) (asked : Option Int),
      let number := (max 1 page).toNat
      let size := s.settings.clamped asked
      let there : Attempt L Page := Desk.pageThere b number size ((number - 1) * size)
      Desk.Comes (Desk.paginate s.settings (some (.int page)) (asked.map .int)) b link
        (there.run link).1 b (there.run link).2) ∧
    ∀ count, b.query.Textual → (Builder.compileCount.run b).1 = .ok count → ∀ size start : Nat,
      if (toString size).length ≤ Text.maxDigits ∧ (toString start).length ≤ Text.maxDigits then
        ∃ window, (Builder.compile.run (b.windowed size start)).1 = .ok window
      else (Builder.compile.run (b.windowed size start)).1 = .error .malformed := by
  intro b
  refine ⟨fun call hcall failure s' hrun hrefusal => ?_, fun page asked =>
    Desk.comes_pageThere s.settings page asked b link, fun count htextual hcount size start =>
      Builder.compile_windowed_of_count htextual.columns hcount size start⟩
  have huntouched := withholds_terminal (n := n) hlink hcall failure
  rw [hrun] at huntouched
  exact huntouched rfl hrefusal

/-- A page of a select that has an open group, and the window of another select. -/
theorem refused_untouched_grouped :
    let d : Dialect := .ofTarget .sqlite
    let q : Query := { Query.fresh with table := .text "t" }
    let test : Token := .test .and (.compare (.text "a") (.text "=") (.int 1))
    let link : Direct := ⟨.fresh false [], [[[(.text "cnt", .int 5)]]], .int 0, .null⟩
    let s : Session Direct :=
      { Session.start .standard d (some link) .nothing false with
        builders := [⟨{ q with wheres := [.opening .and, test] }, .fresh, d⟩, ⟨q, .fresh, d⟩] }
    let fetch : BuilderCall := .paginate ((some 2).map .int) ((some 20).map .int)
    s.line.link = some link ∧
      ((fetch.perform 0).run s).1 = .error (.unclosedGroups "WHERE" 1) ∧
      ((fetch.perform 0).run s).2.line.link = some link ∧
      (s.builder 1).query.Textual ∧
      ∃ window, (Builder.compile.run ((s.builder 1).windowed 20 40)).1 = .ok window := by
  intro d q test link s fetch
  have hlink : s.line.link = some link := rfl
  have hfails : ((fetch.perform 0).run s).1 = .error (.unclosedGroups "WHERE" 1) := rfl
  have htextual : (s.builder 1).query.Textual :=
    ⟨.inr ⟨"t", rfl⟩, rfl, Query.allTexts_fresh, nofun, nofun, nofun, ⟨nofun, nofun⟩,
      ⟨nofun, nofun⟩⟩
  refine ⟨hlink, hfails, ?_, htextual, ?_⟩
  · exact (refused_untouched hlink 0).1 fetch (.paginate (some 2) (some 20)) _ _
      (Prod.ext hfails rfl) rfl
  · have hwindow := (refused_untouched hlink 1).2.2 _ htextual rfl 20 40
    rwa [if_pos (by decide)] at hwindow

end Session

/-- A page of a select that lies so far behind that its start cannot be written. -/
theorem Desk.comes_paginate_overlong {b : Builder} {settings : Settings} {link link' : L}
    [Connection L] {c : Compiled} {total page : Int} {asked : Option Int}
    (hcolumns : Query.AllTexts b.query.columns) (hcount : (Builder.compileCount.run b).1 = .ok c)
    (htotal : (Connection.counted (.ok c)).run link = (.ok total, link'))
    (hlong : Query.Overlong (some (((max 1 page).toNat - 1) * settings.clamped asked))) :
    Desk.Comes (Desk.paginate settings (some (.int page)) (asked.map .int)) b link
      (.error .malformed) b link' := by
  obtain ⟨_, hstart, hlong⟩ := hlong
  cases hstart
  have hwindow := Builder.compile_windowed_of_count hcolumns hcount (settings.clamped asked)
    (((max 1 page).toNat - 1) * settings.clamped asked)
  rw [if_neg (by omega)] at hwindow
  have hcomes := Desk.comes_pageThere settings page asked b link
  dsimp only at hcomes
  rwa [Desk.pageThere, hcount, run_bind, htotal, hwindow] at hcomes

/-- A page of a select without conditions that lies far behind: the count runs, and then the window
cannot be written. -/
theorem Desk.paginate_overlong :
    let b : Builder := ⟨{ Query.fresh with table := .text "t" }, .fresh, .ofTarget .sqlite⟩
    let settings : Settings := ⟨.sqlite, 20, none⟩
    let link : Direct := ⟨.fresh false [], [[[(.text "cnt", .int 5)]]], .int 0, .null⟩
    let page : Int := ((10 ^ 4299 : Nat) : Int)
    let r := (Desk.paginate settings (some (.int page)) ((some 20).map .int)).run
      ⟨b, ⟨some link, []⟩⟩
    b.query.Textual ∧ (∃ count, (Builder.compileCount.run b).1 = .ok count) ∧
      r.1 = .error .malformed ∧
      r.2.line.link.map (fun l => l.wire.calls.map WireCall.name) =
        some ["prepare", "execute", "fetch"] := by
  intro b settings link page r
  have htextual : b.query.Textual :=
    ⟨.inr ⟨"t", rfl⟩, rfl, Query.allTexts_fresh, nofun, nofun, nofun, ⟨nofun, nofun⟩,
      ⟨nofun, nofun⟩⟩
  have hcount : (Builder.compileCount.run b).1 =
      .ok ⟨"SELECT COUNT(*) AS cnt FROM t", [], "sqlite"⟩ := rfl
  have hpage : (max 1 page).toNat - 1 = 10 ^ 4299 - 1 := by omega
  have hsize : settings.clamped (some 20) = 20 := rfl
  have hlong : Query.Overlong (some (((max 1 page).toNat - 1) * settings.clamped (some 20))) := by
    rw [hpage, hsize]
    exact Query.overlong_twentyfold (k := 4299) (by decide) rfl
  have htotal :
      (Connection.counted (.ok ⟨"SELECT COUNT(*) AS cnt FROM t", [], "sqlite"⟩)).run link =
        (.ok 5, _) := rfl
  obtain ⟨log, hrun⟩ := Desk.comes_paginate_overlong htextual.columns hcount htotal hlong []
  have hr : r = _ := hrun
  rw [hr]
  exact ⟨htextual, ⟨_, hcount⟩, rfl, rfl⟩

end BoundSql
