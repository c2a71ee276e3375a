import BoundSql.Proofs.Connection.Books
import BoundSql.Proofs.Connection.Line
import BoundSql.Proofs.Session.Steady

/-!
# The books of a session

The log reports each statement right after it ran. So whatever calls do that leave transactions to
scopes, the books of the connection are those from before with the statements entered that were
reported since.
-/

namespace BoundSql

open Attempt

namespace LogEvent

/-- The text of the statement that an event reports. -/
def statement? : LogEvent → Option String
  | queryExecuted _ sql _ => some sql
  | _ => none

/-- The texts of the statements that events report, in order. -/
def statements (events : List LogEvent) : List String := events.filterMap statement?

end LogEvent

namespace Line

variable {L α : Type} [Connection L] [Bookkeeper L] {k : Books} {before : List LogEvent}

/-- The line with a reliable connection whose books these are. -/
def Has (k : Books) (l : Line L) : Prop := ∃ link, l.link = some link ∧ k.Of link

/-- The books are those from before with the statements entered that were reported since. -/
def Told (before : List LogEvent) (k : Books) (l : Line L) : Prop :=
  ∃ events, l.log = before ++ events ∧ l.Has (k.ranAll (LogEvent.statements events))

/-- A line with certain books has them from now on. -/
theorem told_of_has {l : Line L} (h : l.Has k) : l.Told l.log k :=
  ⟨[], (List.append_nil _).symm, h⟩

/-- Uses of the connection that leave the books as they are. -/
theorem keeps_ask (absent : Failure) {act : Attempt L α}
    (h : ∀ k : Books, Keeps (k.Of (L := L)) act) : Keeps (Told before k) (ask absent act) := by
  rintro l ⟨events, hlog, link, hlink, hof⟩
  rw [run_ask absent act hlink]
  exact ⟨events, hlog, _, rfl, h _ link hof⟩

/-- Uses of a statement that leave the books as they are. -/
theorem keeps_use (statement : Connection.Statement L)
    {act : Attempt (Connection.Statement L × L) α}
    (h : ∀ k : Books, Keeps (fun s : Connection.Statement L × L => k.Of s.2) act) :
    Keeps (Told before k) (use statement act) := by
  rintro l ⟨events, hlog, link, hlink, hof⟩
  rw [run_use statement act hlink]
  exact ⟨events, hlog, _, rfl, h _ (statement, link) hof⟩

/-- Reports of something else than a statement. -/
theorem keeps_report {e : LogEvent} (h : e.statement? = none) :
    Keeps (Told (L := L) before k) (report e) := by
  rintro l ⟨events, hlog, hhas⟩
  refine ⟨events ++ [e], ?_, ?_⟩
  · rw [← List.append_assoc, ← hlog]
    rfl
  · have hstatements : LogEvent.statements (events ++ [e]) = LogEvent.statements events := by
      simp [LogEvent.statements, h]
    rw [hstatements]
    exact hhas

end Line

variable {L : Type} [Connection L]

/-- A statement is used with the connection, and nothing else of the desk changes. -/
theorem Desk.run_use {α : Type} (statement : Connection.Statement L)
    (act : Attempt (Connection.Statement L × L) α) {d : Desk L} {link : L}
    (h : d.line.link = some link) :
    (use statement act).run d =
      ((act.run (statement, link)).1.map fun a => (a, (act.run (statement, link)).2.1),
        { d with line := { d.line with link := some (act.run (statement, link)).2.2 } }) := by
  rw [use, run_within]
  dsimp only [linePart]
  rw [Line.run_use statement act h]

variable [Bookkeeper L] {k : Books} {before : List LogEvent}

namespace Desk

/-- The books of the line of a desk. -/
abbrev Told (before : List LogEvent) (k : Books) (d : Desk L) : Prop := d.line.Told before k

/-- What the line is told, the desk is told. -/
theorem told_within {α : Type} {act : Attempt (Line L) α} (h : Keeps (Line.Told before k) act) :
    Keeps (Told before k) (act.within linePart) := fun d hd => h d.line hd

/-- Binding values leaves the books as they are, and the text of the statement. -/
theorem told_bindAll {sql : String} (bindings : Bindings) {statement : Connection.Statement L}
    (htext : Accounts.text statement = sql) {d : Desk L} (hd : d.Told before k) :
    ((bindAll statement bindings).run d).2.Told before k ∧
      ∀ statement' d', (bindAll statement bindings).run d = (.ok statement', d') →
        Accounts.text statement' = sql := by
  induction bindings generalizing statement d with
  | nil =>
    refine ⟨hd, fun statement' d' h => ?_⟩
    cases h
    exact htext
  | cons binding rest ih =>
    obtain ⟨events, hlog, link, hlink, hof⟩ := hd
    have hbound := Bookkeeper.bind _ sql binding.1 binding.2 (statement, link) ⟨htext, hof⟩
    have hrun := run_use statement (Connection.bind binding.1 binding.2) hlink
    rw [bindAll, run_bind, hrun]
    rcases hact : (Connection.bind binding.1 binding.2).run (statement, link) with
      ⟨outcome, statement', link'⟩
    rw [hact] at hbound
    cases outcome with
    | error f =>
      refine ⟨⟨events, hlog, link', rfl, hbound.2⟩, ?_⟩
      intro _ _ h
      cases h
    | ok a => exact ih hbound.1 ⟨events, hlog, link', rfl, hbound.2⟩

/-- A statement that ran is reported; one that fails leaves the books as they are. -/
theorem told_runCompiled (hk : k.Settled) (c : Compiled) :
    Keeps (Told (L := L) before k) (runCompiled c) := by
  intro d hd
  have hprepare : Keeps (Told (L := L) before k)
      ((Line.ask .noConnection (Connection.prepare c.sql)).within linePart) :=
    told_within (Line.keeps_ask _ fun k => Bookkeeper.prepare k c.sql)
  refine holds_bind (hprepare d hd) fun statement d' hprepared hd' => ?_
  have htext : Accounts.text statement = c.sql := by
    obtain ⟨events, hlog, link, hlink, hof⟩ := hd
    obtain ⟨l, hask, _⟩ := run_within_eq_ok hprepared
    have hrun := Line.run_ask .noConnection (Connection.prepare c.sql) hlink
    rw [linePart] at hask
    rw [hrun] at hask
    rcases hact : (Connection.prepare c.sql).run link with ⟨outcome, link'⟩
    rw [hact] at hask
    cases hask
    exact Bookkeeper.prepared c.sql link link' statement hact
  obtain ⟨hbound, hsame⟩ := told_bindAll c.params htext hd'
  refine holds_bind hbound fun statement' d'' hbinds hd'' => ?_
  have htext' := hsame statement' d'' hbinds
  obtain ⟨events, hlog, link, hlink, hof⟩ := hd''
  have hrun := run_use statement' Connection.execute hlink
  rcases hact : Connection.execute.run (statement', link) with ⟨outcome, s'⟩
  have hafter := Bookkeeper.execute _ (statement', link) s' outcome (hk.ranAll _) hof hact
  rw [run_bind, hrun, hact]
  cases outcome with
  | error f => exact ⟨events, hlog, s'.2, rfl, hafter⟩
  | ok a =>
    refine ⟨events ++ [.queryExecuted d''.builder.query.kind c.sql c.params.length], ?_, s'.2, rfl,
      ?_⟩
    · rw [← List.append_assoc, ← hlog]
      rfl
    · have hstatements : LogEvent.statements
          (events ++ [.queryExecuted d''.builder.query.kind c.sql c.params.length]) =
            LogEvent.statements events ++ [c.sql] := by
        simp [LogEvent.statements, LogEvent.statement?]
      rw [hstatements, Books.ranAll, List.foldl_append]
      rw [htext'] at hafter
      exact hafter

/-- Whatever calls run statements, the books follow the log. -/
theorem overlooks_told (hk : k.Settled) : Overlooks (Told (L := L) before k) where
  run := (keeps_compile fun _ _ hd => hd).bind (told_runCompiled hk)
  runCount := (keeps_compileCount fun _ _ hd => hd).bind (told_runCompiled hk)
  fetch statement := told_within (Line.keeps_use statement Bookkeeper.fetch)
  fetchAll statement := told_within (Line.keeps_use statement Bookkeeper.fetchAll)
  rowCount statement := told_within (Line.keeps_use statement Bookkeeper.rowCount)
  lastInsertId := told_within (Line.keeps_ask _ Bookkeeper.lastInsertId)
  builder _ _ _ hd := hd
  counted _ _ := told_within (Line.keeps_report rfl)

end Desk

namespace Session

/-- The books of the line of a session. -/
abbrev Told (before : List LogEvent) (k : Books) (s : Session L) : Prop := s.line.Told before k

/-- Changes of something beside the line. -/
theorem told_within_other {τ α : Type} {part : Part (Session L) τ}
    (hput : ∀ s t, (part.put t s).line = s.line) (act : Attempt τ α) :
    Keeps (Told before k) (act.within part) := by
  refine .within_other (fun s t hs => ?_) act
  rw [Told, hput]
  exact hs

/-- What the line is told, the session is told. -/
theorem told_within_line {α : Type} {act : Attempt (Line L) α}
    (h : Keeps (Line.Told before k) act) : Keeps (Told before k) (act.within linePart) :=
  fun s hs => h s.line hs

/-- What the desk is told, the session is told. -/
theorem told_within_desk {α : Type} (n : Nat) {act : Attempt (Desk L) α}
    (h : Keeps (Desk.Told before k) act) : Keeps (Told before k) (act.within (deskPart n)) :=
  fun s hs => h ⟨s.builder n, s.line⟩ hs

/-- A call that keeps all books of the connection tells the session nothing. -/
theorem told_onLink {α : Type} {act : Attempt L α} (h : ∀ k : Books, Keeps (k.Of (L := L)) act) :
    Keeps (Told before k) (onLink act) := told_within_line (Line.keeps_ask _ h)

/-- Keeping a statement for later sends nothing. -/
theorem told_keep (statement : Connection.Statement L) :
    Keeps (Told before k) (keep statement) :=
  Keeps.bind (.update fun _ hs => hs) fun _ => .pure _

theorem told_newBuilder (register : String) :
    Keeps (Told (L := L) before k) (newBuilder register) := fun _ hs => hs

theorem told_withStatement {α : Type} {act : Attempt (Connection.Statement L × L) α}
    (h : ∀ k : Books, Keeps (fun s : Connection.Statement L × L => k.Of s.2) act) :
    Keeps (Told before k) (withStatement act) := by
  rintro s ⟨events, hlog, link, hlink, hof⟩
  dsimp only [withStatement, Attempt.run]
  rw [hlink]
  cases s.statement with
  | none => exact ⟨events, hlog, link, hlink, hof⟩
  | some statement => exact ⟨events, hlog, _, rfl, h _ (statement, link) hof⟩

end Session

/-- Calls that build queries send nothing. -/
theorem Clause.told_perform (call : Clause) (receiver : Receiver) :
    Keeps (Session.Told (L := L) before k) (call.perform receiver) :=
  call.keeps_performed receiver (Session.told_within_other (fun _ _ => rfl) _)

/-- What calls on a builder consist of lets the books follow the log. -/
theorem Session.told_servesBuilder (hk : k.Settled) (n : Nat) :
    ServesBuilder (Told (L := L) before k) n where
  desk hact := told_within_desk n (hact (Desk.overlooks_told hk))
  builder _ := told_within_other (fun _ _ => rfl) _
  keep := told_keep
  snapshots _ := .update fun _ hs => hs

/-- Whatever a builder is asked to do, the books follow the log. -/
theorem BuilderCall.told_perform (hk : k.Settled) (n : Nat) (call : BuilderCall) :
    Keeps (Session.Told (L := L) before k) (perform n call) := by
  have hchange : ∀ f : Query → Query, Keeps (Session.Told (L := L) before k) (change n f) :=
    fun f => (Session.told_within_other (fun _ _ => rfl) _).bind fun _ => .pure _
  refine keeps_performed (Session.told_servesBuilder hk n) call ?_ ?_
  · rintro kind rfl
    exact hchange _
  · rintro list token rfl
    cases list with
    | wheres => exact hchange _
    | having => exact hchange _

/-- Whether a call runs no statement itself and inspects no tables, and leaves transactions to
scopes. -/
def Action.usesScopes : Action → Bool
  | .statement .execute => false
  | .connection .begin | .connection .commit | .connection .rollback => false
  | .database (.hasTable _) | .database .tables | .database .preload => false
  | _ => true

open Session in
/-- Whatever a call does that leaves transactions to scopes, the books follow the log. -/
theorem Action.told_perform (hk : k.Settled) (site : Site) (here : Receiver) {action : Action}
    (h : action.usesScopes = true) :
    Keeps (Told (L := L) before k) (action.perform site here) := by
  cases action with
  | clause call => exact (keeps_receiverOf site here).bind call.told_perform
  | builder call => exact (keeps_needBuilder site here).bind fun n => call.told_perform hk n
  | statement call =>
    cases call with
    | bind name value =>
      refine (told_withStatement fun k s hs => ?_).bind fun _ => .pure _
      exact (Bookkeeper.bind k _ name value s ⟨rfl, hs⟩).2
    | execute => cases h
    | fetch => exact (told_withStatement Bookkeeper.fetch).bind fun _ => .pure _
    | fetchAll => exact (told_withStatement Bookkeeper.fetchAll).bind fun _ => .pure _
    | rowCount => exact (told_withStatement Bookkeeper.rowCount).bind fun _ => .pure _
  | connection call =>
    cases call with
    | prepare sql => exact (told_onLink fun k => Bookkeeper.prepare k sql).bind told_keep
    | inTransaction =>
      exact (told_onLink fun _ => Keeps.bind .state fun _ => .pure _).bind fun _ => .pure _
    | lastInsertId => exact (told_onLink Bookkeeper.lastInsertId).bind fun _ => .pure _
    | close => exact (told_onLink fun k => .update (Bookkeeper.close k)).bind fun _ => .pure _
    | wraps =>
      show Keeps _ (ConnectionCall.perform .wraps)
      rw [ConnectionCall.perform]
      split
      · exact told_onLink fun _ => .pure _
      · exact .fail _
    | begin => cases h
    | commit => cases h
    | rollback => cases h
  | database call =>
    have hanswer : ∀ answer, Keeps (Told (L := L) before k) (tablesAnswer answer) :=
      fun answer => keeps_tablesAnswer answer
    cases call with
    | query register =>
      exact (told_newBuilder register).bind fun n => Keeps.bind .state fun _ => .pure _
    | table register name label =>
      refine (told_newBuilder register).bind fun n => ?_
      refine (told_within_other (fun _ _ => rfl) _).bind fun _ => ?_
      exact Keeps.bind .state fun _ => .pure _
    | lastInsertId => exact (told_onLink Bookkeeper.lastInsertId).bind fun _ => .pure _
    | settings => exact Keeps.bind .state fun _ => .pure _
    | connection => exact .pure _
    | invalidate => exact Keeps.bind (.update fun _ hs => hs) fun _ => hanswer _
    | setTables entries => exact Keeps.bind (.update fun _ hs => hs) fun _ => hanswer _
    | hasTable name => cases h
    | tables => cases h
    | preload => cases h
  | raise message => exact .fail _

end BoundSql
