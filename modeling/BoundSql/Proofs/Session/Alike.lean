import BoundSql.Proofs.Desk.Alike
import BoundSql.Proofs.Query.Families
import BoundSql.Session.Action

/-!
# Sessions in lockstep

Two sessions are in lockstep when their connections are, the same was reported in both, and
everything that was made for them differs in bound values only. A call keeps two sessions in
lockstep when it is the same in both but for the values that it binds.
-/

namespace BoundSql

open Attempt

/-- Calls that are the same but for the values that they bind. -/
inductive Action.Alike : Action → Action → Prop
  | same (action : Action) : Alike action action
  | clause {call call' : Clause} (h : call.Alike call') : Alike (.clause call) (.clause call')
  | push (list : ConditionList) {token token' : Token} (h : token.Alike token') :
    Alike (.builder (.push list token)) (.builder (.push list token'))
  | bind (name : String) (value value' : Value) :
    Alike (.statement (.bind name value)) (.statement (.bind name value'))

namespace Entries

variable {κ ν μ : Type} {P : ν → μ → Prop} {entries : Entries κ ν} {entries' : Entries κ μ}

/-- Entries with the same keys and related values. -/
def Related (P : ν → μ → Prop) : Entries κ ν → Entries κ μ → Prop :=
  List.Forall₂ fun entry entry' => entry'.1 = entry.1 ∧ P entry.2 entry'.2

/-- Under a key both have related values, or both have none. -/
theorem Related.find? (h : Related P entries entries') (same : κ → κ → Bool) (key : κ) :
    Option.Rel P (Entries.find? same key entries) (Entries.find? same key entries') := by
  induction h with
  | nil => exact .none
  | @cons entry entry' rest rest' hentry _ ih =>
    obtain ⟨k, v⟩ := entry
    obtain ⟨k', v'⟩ := entry'
    obtain ⟨hkey, hvalue⟩ := hentry
    cases hkey
    rw [Entries.find?, Entries.find?]
    split
    · exact .some hvalue
    · exact ih

/-- Related values are stored under the same key. -/
theorem Related.put (h : Related P entries entries') (same : κ → κ → Bool) (key : κ) {v : ν}
    {v' : μ} (hvalue : P v v') :
    Related P (Entries.put same key v entries) (Entries.put same key v' entries') := by
  induction h with
  | nil => exact .cons ⟨rfl, hvalue⟩ .nil
  | @cons entry entry' rest rest' hentry hrest ih =>
    obtain ⟨k, w⟩ := entry
    obtain ⟨k', w'⟩ := entry'
    obtain ⟨hkey, hw⟩ := hentry
    cases hkey
    rw [Entries.put, Entries.put]
    split
    · exact .cons ⟨rfl, hvalue⟩ hrest
    · exact .cons ⟨rfl, hw⟩ ih

end Entries

namespace Catalog

variable {σ τ : Type} {R : σ → τ → Prop} {part : Part σ Catalog} {part' : Part τ Catalog}
  {fetch : Attempt σ (List Value)} {fetch' : Attempt τ (List Value)}
  {announce : Nat → Attempt σ Unit} {announce' : Nat → Attempt τ Unit}

/-- The names are the same where they are fetched and announced alike. -/
theorem parallel_tables (hget : ∀ s t, R s t → part'.get t = part.get s)
    (hput : ∀ s t c, R s t → R (part.put c s) (part'.put c t)) (hfetch : Parallel R Eq fetch fetch')
    (hannounce : ∀ n, Parallel R Eq (announce n) (announce' n)) :
    Parallel R Eq (tables part fetch announce) (tables part' fetch' announce') := by
  refine Parallel.state.bind fun s t h => ?_
  rw [hget s t h]
  split
  · exact .pure rfl
  · refine hfetch.bind ?_
    rintro entries _ rfl
    refine Parallel.bind (.update fun s t h => hput s t _ h) fun _ _ _ => ?_
    exact (hannounce _).bind fun _ _ _ => .pure rfl

/-- A table is found in both catalogs or in neither. -/
theorem parallel_hasTable (h : Parallel R Eq (tables part fetch announce)
    (tables part' fetch' announce')) (name : Value) :
    Parallel R Eq (hasTable part fetch announce name) (hasTable part' fetch' announce' name) := by
  unfold hasTable
  split
  · refine h.bind ?_
    rintro names _ rfl
    split
    · exact .pure rfl
    · split
      · exact .pure rfl
      · exact .fail _
  · exact .pure rfl

end Catalog

variable {L L' : Type} [Connection L] [Connection L']

/-- Answers of any kind. -/
def AnyAnswers {α β : Type} (_ : α) (_ : β) : Prop := True

/-- Sessions in lockstep. -/
structure Session.Alike (k : Lockstep L L') (s : Session L) (s' : Session L') : Prop where
  /-- The settings are the same. -/
  settings : s'.settings = s.settings
  /-- The builders are alike. -/
  builders : List.Forall₂ Builder.Alike s.builders s'.builders
  /-- The registers are the same. -/
  registers : s'.registers = s.registers
  /-- The lines are in lockstep, and the same was reported on them. -/
  line : k.Lines s.line s'.line
  /-- The statements obtained last are in lockstep, if there are any. -/
  statement : Option.Rel k.statement s.statement s'.statement
  /-- The snapshots are alike. -/
  snapshots : Entries.Related Snapshot.Alike s.snapshots s'.snapshots
  /-- The catalogs are the same, -/
  catalog : s'.catalog = s.catalog
  /-- and so is where the names of the tables come from. -/
  tables : s'.tables = s.tables

namespace Session

variable (k : Lockstep L L')

/-- Sessions that start with the same settings are alike. -/
theorem alike_start (settings : Settings) (dialect : Dialect) {link : Option L} {link' : Option L'}
    (h : Option.Rel k.link link link') (tables : TableSource) (trace trace' : Bool) :
    Alike k (start settings dialect link tables trace)
      (start settings dialect link' tables trace') :=
  ⟨rfl, .cons (Builder.alike_fresh dialect) .nil, rfl, ⟨h, rfl⟩, .none, .nil, rfl, rfl⟩

variable {k}

namespace Alike

variable {s : Session L} {s' : Session L'}

/-- A builder of one session is alike to that of the other with its number. -/
theorem builder (h : Alike k s s') (n : Nat) : Builder.Alike (s.builder n) (s'.builder n) := by
  unfold Session.builder
  rw [h.settings]
  exact forall₂_getD h.builders (Builder.alike_fresh _) n

/-- One builder can be replaced in both by builders that are alike. -/
theorem setBuilder (h : Alike k s s') (n : Nat) {b b' : Builder} (hb : Builder.Alike b b') :
    Alike k { s with builders := s.builders.set n b }
      { s' with builders := s'.builders.set n b' } :=
  { h with builders := forall₂_set h.builders hb n }

/-- So can its query by queries that are alike. -/
theorem setQuery (h : Alike k s s') (n : Nat) {q q' : Query} (hq : Query.Alike q q') :
    Alike k ((queryPart n).put q s) ((queryPart n).put q' s') :=
  h.setBuilder n ⟨hq, (h.builder n).binder, (h.builder n).dialect⟩

/-- So can the line by lines in lockstep. -/
theorem setLine (h : Alike k s s') {l : Line L} {l' : Line L'} (hl : k.Lines l l') :
    Alike k { s with line := l } { s' with line := l' } :=
  { h with line := hl }

end Alike

section Parts

variable {α β : Type} {Q : α → β → Prop}

/-- What is done to a query alike is done to the session alike. -/
theorem alike_onQuery (n : Nat) {act act' : Attempt Query α}
    (h : Parallel Query.Alike Eq act act') :
    Parallel (Alike k) Eq (act.within (queryPart n)) (act'.within (queryPart n)) :=
  .within (fun _ _ hs => (hs.builder n).query) (fun _ _ _ _ hs hq => hs.setQuery n hq) h

/-- What is done to a builder alike is done to the session alike. -/
theorem alike_onBuilder (n : Nat) {act : Attempt Builder α} {act' : Attempt Builder β}
    (h : Parallel Builder.Alike Q act act') :
    Parallel (Alike k) Q (act.within (builderPart n)) (act'.within (builderPart n)) :=
  .within (fun _ _ hs => hs.builder n) (fun _ _ _ _ hs hb => hs.setBuilder n hb) h

/-- So is what a builder does at the line. -/
theorem alike_onDesk (n : Nat) {act : Attempt (Desk L) α} {act' : Attempt (Desk L') β}
    (h : Parallel (Desk.Alike k) Q act act') :
    Parallel (Alike k) Q (act.within (deskPart n)) (act'.within (deskPart n)) :=
  .within (fun _ _ hs => ⟨hs.builder n, hs.line⟩)
    (fun _ _ _ _ hs hd => (hs.setBuilder n hd.builder).setLine hd.line) h

/-- So is what happens on the line. -/
theorem alike_onLine {act : Attempt (Line L) α} {act' : Attempt (Line L') β}
    (h : Parallel k.Lines Q act act') :
    Parallel (Alike k) Q (act.within linePart) (act'.within linePart) :=
  .within (fun _ _ hs => hs.line) (fun _ _ _ _ hs hl => hs.setLine hl) h

/-- So is what happens on the connection, which may be missing in both. -/
theorem alike_onLink {act : Attempt L α} {act' : Attempt L' β}
    (h : Parallel k.link Q act act') : Parallel (Alike k) Q (onLink act) (onLink act') :=
  alike_onLine (k.parallel_ask _ h)

/-- The statement obtained last is used alike. -/
theorem alike_withStatement {act : Attempt (Connection.Statement L × L) α}
    {act' : Attempt (Connection.Statement L' × L') β}
    (h : Parallel (Both k.statement k.link) Q act act') :
    Parallel (Alike k) Q (withStatement act) (withStatement act') := by
  intro s s' hs
  have hstatement := hs.statement
  have hlink := hs.line.link
  unfold withStatement Attempt.run
  dsimp only
  generalize s.statement = given at hstatement ⊢
  generalize s'.statement = given' at hstatement ⊢
  generalize s.line.link = link at hlink ⊢
  generalize s'.line.link = link' at hlink ⊢
  cases hstatement with
  | none => exact ⟨.error _, hs⟩
  | some hstatement =>
    cases hlink with
    | none => exact ⟨.error _, hs⟩
    | some hlink =>
      obtain ⟨hout, hkept, hend⟩ := h (_, _) (_, _) ⟨hstatement, hlink⟩
      exact ⟨hout, { hs with statement := .some hkept, line := ⟨.some hend, hs.line.log⟩ }⟩

end Parts

/-- A register names the same builder. -/
theorem alike_numberOf (register : String) :
    Parallel (Alike k) Eq (numberOf register) (numberOf register) := by
  refine Parallel.state.bind fun s s' h => ?_
  rw [h.registers]
  refine .ofOption _ ?_
  cases Entries.find? (· == ·) register s.registers with
  | none => exact .none
  | some n => exact .some rfl

/-- A call finds the same receiver. -/
theorem alike_receiverOf (site : Site) (here : Receiver) :
    Parallel (Alike k) Eq (receiverOf site here) (receiverOf site here) := by
  unfold receiverOf
  cases site.register with
  | none => exact .pure rfl
  | some register =>
    refine Parallel.bind (alike_numberOf register) ?_
    rintro n _ rfl
    exact .pure rfl

/-- A call that needs a builder finds the same one, or a group handle in both. -/
theorem alike_needBuilder (site : Site) (here : Receiver) :
    Parallel (Alike k) Eq (needBuilder site here) (needBuilder site here) := by
  refine Parallel.bind (alike_receiverOf site here) ?_
  rintro receiver _ rfl
  cases receiver with
  | builder n => exact .pure rfl
  | group n => exact .fail _

/-- A receiver answers with itself. -/
theorem alike_returned (receiver : Receiver) :
    Parallel (Alike k) AnyAnswers (returned receiver) (returned receiver) := by
  refine Parallel.state.bind fun _ _ _ => ?_
  cases receiver with
  | builder n => exact .pure trivial
  | group n => exact .pure trivial

/-- The state of the catalog is shown for both. -/
theorem alike_tablesAnswer (answer : TableAnswer) :
    Parallel (Alike k) AnyAnswers (tablesAnswer answer) (tablesAnswer answer) :=
  Parallel.state.bind fun _ _ _ => .pure trivial

/-- Statements in lockstep are kept as those obtained last. -/
theorem alike_keep {statement : Connection.Statement L} {statement' : Connection.Statement L'}
    (h : k.statement statement statement') :
    Parallel (Alike k) AnyAnswers (keep statement) (keep statement') :=
  Parallel.bind (.update fun _ _ hs => { hs with statement := .some h }) fun _ _ _ => .pure trivial

/-- A new builder gets the same number and is fresh in both. -/
theorem alike_newBuilder (register : String) :
    Parallel (Alike k) Eq (newBuilder register) (newBuilder register) := by
  refine Parallel.state.bind fun s s' h => ?_
  rw [h.builders.length_eq]
  refine Parallel.bind (.update fun s s' h => ?_) fun _ _ _ => .pure rfl
  have hfresh := Builder.alike_fresh (.ofTarget s.settings.target)
  rw [h.settings, h.registers]
  exact { h with
    settings := rfl, registers := rfl, builders := List.rel_append h.builders (.cons hfresh .nil) }

/-- Whichever source the names have, they are fetched alike. -/
theorem alike_fetchTables : Parallel (Alike k) Eq fetchTables fetchTables := by
  refine Parallel.state.bind fun s s' h => ?_
  rw [h.tables]
  split
  · exact .pure rfl
  · exact Parallel.bind (.update fun _ _ h => { h with tables := rfl }) fun _ _ _ => .pure rfl
  · refine Parallel.state.bind fun s s' h => ?_
    have hlink : s'.line.link.isNone = s.line.link.isNone := by
      have hlink := h.line.link
      generalize s.line.link = link at hlink ⊢
      generalize s'.line.link = link' at hlink ⊢
      cases hlink <;> rfl
    rw [hlink]
    split
    · exact .pure rfl
    · exact alike_onLine (k.parallel_ask _ k.tableNames)

/-- Both catalogs hold the same names afterwards, fetched or remembered. -/
theorem alike_tableNames : Parallel (Alike k) Eq tableNames tableNames :=
  Catalog.parallel_tables (fun _ _ h => h.catalog) (fun _ _ _ h => { h with catalog := rfl })
    alike_fetchTables fun n => alike_onLine (k.parallel_report (.schemaCacheLoaded n))

/-- Fetching the names ahead of use does the same to both catalogs. -/
theorem alike_preloadTables : Parallel (Alike k) Eq preloadTables preloadTables :=
  alike_tableNames.bind fun _ _ _ => .pure rfl

/-- Both catalogs forget their names. -/
theorem alike_forgetTables : Parallel (Alike k) Eq forgetTables forgetTables :=
  .update fun _ _ h => { h with catalog := rfl }

end Session

open Session

variable {k : Lockstep L L'}

namespace Clause

/-- The values of a call do not change what it writes to. -/
theorem family_mapValues (f : Value → Value) (call : Clause) :
    (call.mapValues f).family = call.family := by
  cases call with
  | insert data => cases data <;> rfl
  | _ => rfl

/-- The handle of a group takes conditions only. -/
theorem perform_group (call : Clause) (n : Nat) :
    (call.perform (.group n) : Attempt (Session L) Answer) =
      if call.family = .wheres then do
        call.apply.within (queryPart n)
        returned (.group n)
      else .fail .absentCall := by
  cases call <;> rfl

/-- A call on a builder or a group handle adds alike what it is given. -/
theorem Alike.parallel_perform {call call' : Clause} (h : call.Alike call')
    (receiver : Receiver) :
    Parallel (Session.Alike k) AnyAnswers (call.perform receiver) (call'.perform receiver) := by
  have happly := fun n => alike_onQuery (k := k) n h.parallel
  cases receiver with
  | builder n => exact (happly n).bind fun _ _ _ => alike_returned _
  | group n =>
    have hfamily : call'.family = call.family := by
      rw [← family_mapValues Value.forget call', h, family_mapValues]
    rw [perform_group, perform_group, hfamily]
    split
    · exact (happly n).bind fun _ _ _ => alike_returned _
    · exact .fail _

end Clause

namespace BuilderCall

/-- A change that neither reads nor writes the insert data is the same change to both. -/
theorem parallel_change (n : Nat) {g : Query → Query}
    (hdata : ∀ q data, { (g q).mapValues Value.forget with insert := data } =
      g { q.mapValues Value.forget with insert := data })
    (hinsert : ∀ q, (g q).insert = q.insert) :
    Parallel (Session.Alike k) AnyAnswers (change n g) (change n g) :=
  (alike_onQuery n (.update fun _ _ h => h.change hdata hinsert)).bind fun _ _ _ => .pure trivial

/-- Members that are alike are added alike. -/
theorem parallel_push (n : Nat) (list : ConditionList) {token token' : Token}
    (h : token.Alike token') :
    Parallel (Session.Alike k) AnyAnswers (perform n (.push list token))
      (perform n (.push list token')) := by
  cases list with
  | wheres =>
    refine (alike_onQuery n (.update fun _ _ hq => ?_)).bind fun _ _ _ => .pure trivial
    exact hq.addWhere h
  | having =>
    refine (alike_onQuery n (.update fun _ _ hq => ?_)).bind fun _ _ _ => .pure trivial
    exact hq.addHaving h

/-- Snapshots that are alike are put back alike. -/
theorem parallel_restore (n : Nat) (name : String) :
    Parallel (Session.Alike k) AnyAnswers (perform n (.restore name))
      (perform n (.restore name)) := by
  refine Parallel.state.bind fun s s' h => ?_
  refine (Parallel.ofOption .absentKey (h.snapshots.find? _ name)).bind fun _ _ htaken => ?_
  refine (alike_onBuilder n (.update fun _ _ hb => hb.restore htaken)).bind fun _ _ _ => ?_
  exact Parallel.state.bind fun _ _ _ => .pure trivial

/-- A snapshot is taken under the same name. -/
theorem parallel_snapshot (n : Nat) (name : String) :
    Parallel (Session.Alike k) AnyAnswers (perform n (.snapshot name))
      (perform n (.snapshot name)) := by
  refine Parallel.state.bind fun s s' h => ?_
  refine Parallel.bind (.update fun _ _ hs => ?_) fun _ _ _ => .pure trivial
  exact { hs with snapshots := hs.snapshots.put _ name (h.builder n).snapshot }

/-- A call on a desk that answers alike. -/
theorem parallel_desk {α : Type} (n : Nat) (wrap : α → Answer) {act : Attempt (Desk L) α}
    {act' : Attempt (Desk L') α} (h : Parallel (Desk.Alike k) Eq act act') :
    Parallel (Session.Alike k) AnyAnswers (do return wrap (← act.within (deskPart n)))
      (do return wrap (← act'.within (deskPart n))) :=
  (alike_onDesk n h).bind fun _ _ _ => .pure trivial

/-- A call on a builder, the same in both sessions. -/
theorem parallel_perform (n : Nat) (call : BuilderCall) :
    Parallel (Session.Alike k) AnyAnswers (perform n call) (perform n call) := by
  have hcompile := Builder.parallel_of_image Builder.parallel_compile
  have hcompileCount := Builder.parallel_of_image Builder.parallel_compileCount
  cases call with
  | toSql => exact (alike_onBuilder n hcompile).bind fun _ _ _ => .pure trivial
  | compile => exact (alike_onBuilder n hcompile).bind fun _ _ _ => .pure trivial
  | compileCount => exact (alike_onBuilder n hcompileCount).bind fun _ _ _ => .pure trivial
  | bindings => exact Parallel.state.bind fun _ _ _ => .pure trivial
  | dump => exact Parallel.state.bind fun _ _ _ => .pure trivial
  | get => exact parallel_desk n .rows (Desk.parallel_get k)
  | first => exact parallel_desk n .row (Desk.parallel_first k)
  | value column => exact parallel_desk n .value (Desk.parallel_value k column)
  | count => exact parallel_desk n .number (Desk.parallel_count k)
  | execute => exact parallel_desk n .value (Desk.parallel_execute k)
  | insertGetId => exact parallel_desk n .value (Desk.parallel_insertGetId k)
  | lastInsertId => exact parallel_desk n .value (Desk.parallel_lastInsertId k)
  | countTotal => exact parallel_desk n .number (Desk.parallel_countTotal k)
  | paginate page perPage =>
    refine Parallel.state.bind fun s s' h => ?_
    rw [h.settings]
    exact parallel_desk n .page (Desk.parallel_paginate k s.settings page perPage)
  | run => exact (alike_onDesk n (Desk.parallel_run k)).bind fun _ _ h => alike_keep h
  | snapshot name => exact parallel_snapshot n name
  | restore name => exact parallel_restore n name
  | setKind kind => exact parallel_change n (fun _ _ => rfl) fun _ => rfl
  | push list token => exact parallel_push n list rfl

end BuilderCall

/-- Any value may be bound to a statement. -/
theorem StatementCall.parallel_bind (name : String) (value value' : Value) :
    Parallel (Session.Alike k) AnyAnswers (perform (.bind name value))
      (perform (.bind name value')) :=
  (alike_withStatement (k.bind name value value')).bind fun _ _ _ => .pure trivial

/-- A call on the statement obtained last answers alike. -/
theorem StatementCall.parallel_perform (call : StatementCall) :
    Parallel (Session.Alike k) AnyAnswers call.perform call.perform := by
  cases call with
  | bind name value => exact parallel_bind name value value
  | execute => exact (alike_withStatement k.execute).bind fun _ _ _ => .pure trivial
  | fetch => exact (alike_withStatement k.fetch).bind fun _ _ _ => .pure trivial
  | fetchAll => exact (alike_withStatement k.fetchAll).bind fun _ _ _ => .pure trivial
  | rowCount => exact (alike_withStatement k.rowCount).bind fun _ _ _ => .pure trivial

/-- A call on the connection itself answers alike. -/
theorem ConnectionCall.parallel_perform (call : ConnectionCall) :
    Parallel (Session.Alike k) AnyAnswers call.perform call.perform := by
  cases call with
  | prepare sql => exact (alike_onLink (k.prepare sql)).bind fun _ _ h => alike_keep h
  | begin => exact (alike_onLink k.begin).bind fun _ _ _ => .pure trivial
  | commit => exact (alike_onLink k.commit).bind fun _ _ _ => .pure trivial
  | rollback => exact (alike_onLink k.rollback).bind fun _ _ _ => .pure trivial
  | inTransaction =>
    refine (alike_onLink (Q := Eq) (Parallel.state.bind fun l l' h => ?_)).bind
      fun _ _ _ => .pure trivial
    exact .pure (k.inTransaction l l' h).symm
  | lastInsertId => exact (alike_onLink k.lastInsertId).bind fun _ _ _ => .pure trivial
  | close =>
    exact (alike_onLink (.update k.close)).bind fun _ _ _ => .pure trivial
  | wraps =>
    dsimp only [perform]
    rw [k.wraps]
    split
    · exact alike_onLink (.pure trivial)
    · exact .fail _

/-- A call on the database answers alike; none of them binds a value. -/
theorem DatabaseCall.parallel_perform (call : DatabaseCall) :
    Parallel (Session.Alike k) AnyAnswers call.perform call.perform := by
  cases call with
  | query register =>
    refine (alike_newBuilder register).bind fun _ _ _ => ?_
    exact Parallel.state.bind fun _ _ _ => .pure trivial
  | table register name label =>
    refine (alike_newBuilder register).bind ?_
    rintro n _ rfl
    refine (alike_onQuery n (Clause.Alike.parallel rfl)).bind fun _ _ _ => ?_
    exact Parallel.state.bind fun _ _ _ => .pure trivial
  | lastInsertId => exact (alike_onLink k.lastInsertId).bind fun _ _ _ => .pure trivial
  | settings => exact Parallel.state.bind fun _ _ _ => .pure trivial
  | connection => exact .pure trivial
  | hasTable name =>
    refine (Catalog.parallel_hasTable alike_tableNames name).bind ?_
    rintro found _ rfl
    exact alike_tablesAnswer _
  | tables =>
    refine alike_tableNames.bind ?_
    rintro names _ rfl
    exact alike_tablesAnswer _
  | preload => exact alike_preloadTables.bind fun _ _ _ => alike_tablesAnswer _
  | invalidate => exact alike_forgetTables.bind fun _ _ _ => alike_tablesAnswer _
  | setTables entries =>
    refine Parallel.bind (.update fun s s' h => ?_) fun _ _ _ => alike_tablesAnswer _
    exact { h with tables := by rw [h.tables] }

/-- Calls that are the same but for the values that they bind keep sessions in lockstep: both answer
or both fail with the same failure. -/
theorem Action.Alike.parallel_perform {action action' : Action} (h : action.Alike action')
    (site : Site) (here : Receiver) :
    Parallel (Session.Alike k) AnyAnswers (action.perform site here)
      (action'.perform site here) := by
  cases h with
  | same =>
    cases action with
    | clause call =>
      refine (alike_receiverOf site here).bind ?_
      rintro receiver _ rfl
      exact Clause.Alike.parallel_perform rfl receiver
    | builder call =>
      refine (alike_needBuilder site here).bind ?_
      rintro n _ rfl
      exact BuilderCall.parallel_perform n call
    | statement call => exact call.parallel_perform
    | connection call => exact call.parallel_perform
    | database call => exact call.parallel_perform
    | raise message => exact .fail _
  | clause h =>
    refine (alike_receiverOf site here).bind ?_
    rintro receiver _ rfl
    exact h.parallel_perform receiver
  | push list h =>
    refine (alike_needBuilder site here).bind ?_
    rintro n _ rfl
    exact BuilderCall.parallel_push n list h
  | bind name value value' => exact StatementCall.parallel_bind name value value'

end BoundSql
