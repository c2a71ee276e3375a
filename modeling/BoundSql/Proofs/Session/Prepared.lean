import BoundSql.Proofs.Connection.Line
import BoundSql.Proofs.Session.PutBack
import BoundSql.Proofs.Session.Steady

/-!
# What calls on builders prepare

Before a call on a builder renders, it changes of the builder only what a snapshot holds: columns,
bounds and ordering. So all texts that it answers with, or asks the connection to prepare, are
statements and counts of the builder as it may be put back to a snapshot.
-/

namespace BoundSql

open Attempt

/-- The text of a statement or of a count of the builder, put back to some snapshot. -/
def Builder.Renders (b : Builder) (sql : String) : Prop :=
  ∃ s c, ((compile.run (b.restore s)).1 = .ok c ∨ (compileCount.run (b.restore s)).1 = .ok c) ∧
    c.sql = sql

/-- The text that an answer carries. -/
def Answer.sql? : Answer → Option String
  | text sql => some sql
  | compiled c => some c.sql
  | _ => none

variable {L : Type} [Connection L]

/-- The calls that run statements take a connection from one state to another, and prepare only
certain texts. -/
inductive Connection.Prepares (texts : String → Prop) (link : L) : L → Prop
  | unused : Prepares texts link link
  | prepare {link' : L} {sql : String} (hsql : texts sql) (h : Prepares texts link link') :
    Prepares texts link ((Connection.prepare sql).run link').2
  | bind {link' : L} (statement : Connection.Statement L) (name : String) (value : Value)
    (h : Prepares texts link link') :
    Prepares texts link ((Connection.bind name value).run (statement, link')).2.2
  | execute {link' : L} (statement : Connection.Statement L) (h : Prepares texts link link') :
    Prepares texts link (Connection.execute.run (statement, link')).2.2
  | fetch {link' : L} (statement : Connection.Statement L) (h : Prepares texts link link') :
    Prepares texts link (Connection.fetch.run (statement, link')).2.2
  | fetchAll {link' : L} (statement : Connection.Statement L) (h : Prepares texts link link') :
    Prepares texts link (Connection.fetchAll.run (statement, link')).2.2
  | rowCount {link' : L} (statement : Connection.Statement L) (h : Prepares texts link link') :
    Prepares texts link (Connection.rowCount.run (statement, link')).2.2
  | lastInsertId {link' : L} (h : Prepares texts link link') :
    Prepares texts link (Connection.lastInsertId.run link').2

variable {texts : String → Prop} {b : Builder}

namespace Line

/-- Whatever connection there is in a line came from that of another line, and only certain texts
were prepared. -/
def Prepares (texts : String → Prop) (before after : Line L) : Prop :=
  ∀ link', after.link = some link' →
    ∃ link, before.link = some link ∧ Connection.Prepares texts link link'

variable {before : Line L} {α : Type}

theorem prepares_self : Prepares texts before before := fun link hlink => ⟨link, hlink, .unused⟩

/-- A call that prepares only certain texts on the connection does so on the line. -/
theorem prepares_ask (absent : Failure) {act : Attempt L α}
    (h : ∀ {link link' : L}, Connection.Prepares texts link link' →
      Connection.Prepares texts link (act.run link').2) :
    Keeps (Prepares texts before) (ask absent act) := by
  intro after hprepares
  cases hlink : after.link with
  | none =>
    rw [run_ask_absent absent act hlink]
    exact hprepares
  | some link =>
    obtain ⟨first, hfirst, hcame⟩ := hprepares link hlink
    rw [run_ask absent act hlink]
    intro link' hlink'
    cases hlink'
    exact ⟨first, hfirst, h hcame⟩

theorem prepares_use (statement : Connection.Statement L)
    {act : Attempt (Connection.Statement L × L) α}
    (h : ∀ {link link' : L}, Connection.Prepares texts link link' →
      Connection.Prepares texts link (act.run (statement, link')).2.2) :
    Keeps (Prepares texts before) (use statement act) := by
  have huse : use statement act = ask .noConnection (Connection.use statement act) := rfl
  rw [huse]
  refine prepares_ask _ fun hcame => ?_
  rw [Connection.run_use]
  exact h hcame

end Line

namespace Desk

/-- The builder of a desk is a given one but for what a snapshot holds, and its connection came from
an earlier one, for which only texts of that builder were prepared. -/
structure Renders (b : Builder) (before : Line L) (d : Desk L) : Prop where
  builder : d.builder.restore b.snapshot = b
  line : Line.Prepares b.Renders before d.line

variable {before : Line L} {α : Type}

/-- What prepares only renderings of a builder on the line does so at the desk. -/
theorem renders_within_line {act : Attempt (Line L) α}
    (h : Keeps (Line.Prepares b.Renders before) act) :
    Keeps (Renders b before) (act.within linePart) :=
  fun _ hd => ⟨hd.builder, h _ hd.line⟩

/-- Running a rendering prepares it. -/
theorem renders_runCompiled {c : Compiled} (hc : b.Renders c.sql) :
    Keeps (Renders b before) (runCompiled c) := by
  refine keeps_runCompiled_of ?_ (fun statement name value => ?_) (fun statement => ?_) fun e => ?_
  · exact renders_within_line (Line.prepares_ask _ (.prepare hc))
  · exact renders_within_line (Line.prepares_use statement (.bind statement name value))
  · exact renders_within_line (Line.prepares_use statement (.execute statement))
  · exact renders_within_line (.update fun _ h => h)

/-- A render of such a builder is among the given ones, whatever it was put back to. -/
theorem renders_rendered {render : Attempt Builder Compiled}
    (hsame : Keeps (Renders b before) (render.within builderPart))
    (hrender : ∀ s c, (render.run (b.restore s)).1 = .ok c → b.Renders c.sql) :
    Keeps (Renders b before) (render.within builderPart >>= runCompiled) := by
  intro d hd
  refine holds_bind (hsame d hd) fun c d' hrun hd' => renders_runCompiled ?_ d' hd'
  obtain ⟨b', hrun, _⟩ := run_within_eq_ok hrun
  have hb : b.restore d.builder.snapshot = d.builder := by
    rw [← hd.builder]
    rfl
  refine hrender d.builder.snapshot c ?_
  rw [hb]
  exact congrArg Prod.fst hrun

/-- Whatever runs at the desk prepares only what the builder renders, also once a snapshot is put
back. -/
theorem overlooks_renders : Overlooks (Renders (L := L) b before) where
  run := renders_rendered (keeps_compile fun _ _ hd => ⟨hd.builder, hd.line⟩)
    fun s c hc => ⟨s, c, .inl hc, rfl⟩
  runCount := renders_rendered (keeps_compileCount fun _ _ hd => ⟨hd.builder, hd.line⟩)
    fun s c hc => ⟨s, c, .inr hc, rfl⟩
  fetch statement := renders_within_line (Line.prepares_use statement (.fetch statement))
  fetchAll statement := renders_within_line (Line.prepares_use statement (.fetchAll statement))
  rowCount statement := renders_within_line (Line.prepares_use statement (.rowCount statement))
  lastInsertId := renders_within_line (Line.prepares_ask _ .lastInsertId)
  builder d b' hb' hd := ⟨(overlooks_restored b).builder d b' hb' hd.builder, hd.line⟩
  counted _ _ := renders_within_line (.update fun _ h => h)

end Desk

namespace Session

/-- A builder of a session at its connection, as a desk. -/
abbrev Renders (n : Nat) (b : Builder) (before : Line L) (s : Session L) : Prop :=
  Desk.Renders b before ⟨s.builder n, s.line⟩

/-- A desk prepares nothing for a session but what its builder renders. -/
theorem servesBuilder_renders (n : Nat) (before : Line L) :
    ServesBuilder (Renders n b before) n where
  desk hact s hs := by
    have hd := hact Desk.overlooks_renders ⟨s.builder n, s.line⟩ hs
    refine ⟨?_, hd.line⟩
    exact holds_builder_set (Q := fun b' => b'.restore b.snapshot = b)
      (fun _ _ => hd.builder) fun _ => hs.builder
  builder hact s hs := by
    have hb := (Desk.overlooks_restored b).builder ⟨s.builder n, s.line⟩ _ (hact _) hs.builder
    refine ⟨?_, hs.line⟩
    exact holds_builder_set (Q := fun b' => b'.restore b.snapshot = b)
      (fun _ _ => hb) fun _ => hs.builder
  keep _ := Keeps.bind (.update fun _ hs => hs) fun _ => .pure _
  snapshots _ := .update fun _ hs => hs

end Session

namespace BuilderCall

variable (n : Nat) (call : BuilderCall) (s : Session L)

/-- A call on a builder asks the connection to prepare only texts that the builder renders. -/
theorem prepares_perform :
    Line.Prepares (s.builder n).Renders s.line ((perform n call).run s).2.line := by
  have hstart : Session.Renders n (s.builder n) s.line s :=
    ⟨Builder.restore_snapshot _, Line.prepares_self⟩
  have hserves := Session.servesBuilder_renders (b := s.builder n) n s.line
  have hperform : (∀ kind, call ≠ .setKind kind) → (∀ list token, call ≠ .push list token) →
      Line.Prepares (s.builder n).Renders s.line ((perform n call).run s).2.line :=
    fun hkind hpush => (keeps_performed hserves call (fun kind h => absurd h (hkind kind))
      (fun list token h => absurd h (hpush list token)) s hstart).line
  cases call with
  | setKind kind => exact Line.prepares_self
  | push list token => cases list <;> exact Line.prepares_self
  | _ => exact hperform (by rintro _ ⟨⟩) (by rintro _ _ ⟨⟩)

variable {n call s}

/-- A text that a call on a builder answers with is one that the builder renders. -/
theorem renders_of_answer {answer : Answer} {s' : Session L} {sql : String}
    (h : (perform n call).run s = (.ok answer, s')) (hsql : answer.sql? = some sql) :
    (s.builder n).Renders sql := by
  cases call with
  | toSql | compile =>
    obtain ⟨c, _, hrun, hanswer⟩ := run_bind_eq_ok h
    cases hanswer
    cases hsql
    obtain ⟨b', hcompile, _⟩ := run_within_eq_ok hrun
    exact ⟨(s.builder n).snapshot, c, .inl (congrArg Prod.fst hcompile), rfl⟩
  | compileCount =>
    obtain ⟨c, _, hrun, hanswer⟩ := run_bind_eq_ok h
    cases hanswer
    cases hsql
    obtain ⟨b', hcompile, _⟩ := run_within_eq_ok hrun
    exact ⟨(s.builder n).snapshot, c, .inr (congrArg Prod.fst hcompile), rfl⟩
  | push list token =>
    cases list <;>
    · obtain ⟨_, _, _, hanswer⟩ := run_bind_eq_ok h
      cases hanswer
      cases hsql
  | paginate page perPage | run | snapshot name =>
    obtain ⟨_, _, _, hrest⟩ := run_bind_eq_ok h
    obtain ⟨_, _, _, hanswer⟩ := run_bind_eq_ok hrest
    cases hanswer
    cases hsql
  | restore name =>
    obtain ⟨_, _, _, hrest⟩ := run_bind_eq_ok h
    obtain ⟨_, _, _, hrest⟩ := run_bind_eq_ok hrest
    obtain ⟨_, _, _, hrest⟩ := run_bind_eq_ok hrest
    obtain ⟨_, _, _, hanswer⟩ := run_bind_eq_ok hrest
    cases hanswer
    cases hsql
  | _ =>
    obtain ⟨_, _, _, hanswer⟩ := run_bind_eq_ok h
    cases hanswer
    cases hsql

end BuilderCall

end BoundSql
