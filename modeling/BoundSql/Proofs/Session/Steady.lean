import BoundSql.Proofs.Desk.Steady
import BoundSql.Session.Action

/-!
# What single calls of a session keep

A call that runs no other steps works on the builder it is made on, makes a new one, or touches
nothing of the builders at all. Running statements changes of a builder only what a snapshot holds.
So a property of sessions that looks at the builders, and there at nothing that a snapshot holds, is
kept by every call that does not build a query, whether it answers or fails.
-/

namespace BoundSql

open Attempt

variable {L : Type} [Connection L]

namespace Session

theorem builder_set_self {s : Session L} {n : Nat} (hn : n < s.builders.length) (b : Builder) :
    builder { s with builders := s.builders.set n b } n = b := by
  unfold builder
  rw [List.getElem?_set_self hn]
  rfl

/-- All other builders are where they were. -/
theorem builder_set_other (s : Session L) {n m : Nat} (h : m ≠ n ∨ s.builders.length ≤ n)
    (b : Builder) : builder { s with builders := s.builders.set n b } m = s.builder m := by
  unfold builder
  by_cases hmn : m = n
  · subst hmn
    have hlength : s.builders.length ≤ m := h.resolve_left (absurd rfl)
    rw [List.set_eq_of_length_le hlength]
  · rw [List.getElem?_set_ne (Ne.symm hmn)]

/-- What holds of a builder after one was replaced: it is the replaced one, or as it was. -/
theorem holds_builder_set {Q : Builder → Prop} {s : Session L} {n m : Nat} {b : Builder}
    (hself : m = n → n < s.builders.length → Q b)
    (hother : m ≠ n ∨ s.builders.length ≤ n → Q (s.builder m)) :
    Q (builder { s with builders := s.builders.set n b } m) := by
  by_cases hm : m ≠ n ∨ s.builders.length ≤ n
  · rw [builder_set_other s hm]
    exact hother hm
  · obtain ⟨rfl, hlength⟩ : m = n ∧ n < s.builders.length := by omega
    rw [builder_set_self hlength]
    exact hself rfl hlength

/-- The session with one more builder. -/
theorem run_newBuilder (register : String) (s : Session L) :
    (newBuilder register).run s =
      (.ok s.builders.length,
        { s with
          builders := s.builders ++ [.fresh (.ofTarget s.settings.target)]
          registers := Entries.put (· == ·) register s.builders.length s.registers }) := rfl

/-- A number without a builder stands for a fresh one, so making one changes no builder. -/
theorem builder_newBuilder (register : String) (s : Session L) (n : Nat) :
    ((newBuilder register).run s).2.builder n = s.builder n := by
  rw [run_newBuilder]
  unfold builder
  by_cases hn : n < s.builders.length
  · rw [List.getElem?_append_left hn]
  · rw [List.getElem?_append_right (Nat.le_of_not_lt hn),
      List.getElem?_eq_none (Nat.le_of_not_lt hn)]
    cases n - s.builders.length with
    | zero => rfl
    | succ m => rfl

/-- A property of sessions that looks at what they store only: the builders, and the snapshots taken
of them. -/
structure OfStore (P : Session L → Prop) : Prop where
  /-- It looks at them, and at what numbers and makes builders. -/
  others : ∀ s t : Session L, t.builders = s.builders → t.registers = s.registers →
    t.settings = s.settings → t.snapshots = s.snapshots → P s → P t
  /-- It holds of new builders. -/
  newBuilder : ∀ register, Keeps P (newBuilder register)

/-- A property of sessions that looks at the builders only. -/
structure OfBuilders (P : Session L → Prop) : Prop where
  /-- It looks at them, and at what numbers and makes them. -/
  others : ∀ s t : Session L, t.builders = s.builders → t.registers = s.registers →
    t.settings = s.settings → P s → P t
  /-- It holds of new builders. -/
  newBuilder : ∀ register, Keeps P (newBuilder register)

/-- A property of sessions that looks at the builders, and there at nothing that a snapshot
holds. -/
structure Steady (P : Session L → Prop) : Prop extends OfBuilders P where
  /-- It does not tell two builders apart that differ in what a snapshot holds, -/
  builder : ∀ (s : Session L) n b, b.restore (s.builder n).snapshot = s.builder n → P s →
    P { s with builders := s.builders.set n b }
  /-- nor in their kind. -/
  kind : ∀ n kind, Keeps P ((Attempt.update fun q => { q with kind }).within (queryPart n))

/-- A property of the builders is one of the store. -/
theorem OfBuilders.ofStore {P : Session L → Prop} (h : OfBuilders P) : OfStore P :=
  ⟨fun s t hbuilders hregisters hsettings _ => h.others s t hbuilders hregisters hsettings,
    h.newBuilder⟩

/-! Looking for a builder changes nothing, so it keeps everything. -/

/-- Looking up a register changes nothing. -/
theorem keeps_numberOf {P : Session L → Prop} (register : String) :
    Keeps P (numberOf register) :=
  Keeps.bind .state fun _ => .ofOption _ _

theorem keeps_receiverOf {P : Session L → Prop} (site : Site) (here : Receiver) :
    Keeps P (receiverOf site here) := by
  unfold receiverOf
  cases site.register with
  | none => exact .pure _
  | some register => exact (keeps_numberOf register).bind fun _ => .pure _

theorem keeps_needBuilder {P : Session L → Prop} (site : Site) (here : Receiver) :
    Keeps P (needBuilder site here) := by
  refine (keeps_receiverOf site here).bind fun receiver => ?_
  cases receiver with
  | builder n => exact .pure _
  | group n => exact .fail _

/-- Answering with the receiver changes nothing. -/
theorem keeps_returned {P : Session L → Prop} (receiver : Receiver) :
    Keeps P (returned receiver) := by
  refine Keeps.bind .state fun s => ?_
  cases receiver with
  | builder n => exact .pure _
  | group n => exact .pure _

/-- Showing the catalog changes nothing. -/
theorem keeps_tablesAnswer {P : Session L → Prop} (answer : TableAnswer) :
    Keeps P (tablesAnswer answer) := Keeps.bind .state fun _ => .pure _

namespace OfStore

variable {P : Session L → Prop}

/-- Calls that use the connection and the log only. -/
theorem within_line (h : OfStore P) {α : Type} (act : Attempt (Line L) α) :
    Keeps P (act.within linePart) :=
  .within_other (fun s _ hs => h.others s _ rfl rfl rfl rfl hs) act

/-- A call on the connection keeps a property of the store. -/
theorem onLink (h : OfStore P) {α : Type} (act : Attempt L α) : Keeps P (onLink act) :=
  h.within_line _

theorem keep (h : OfStore P) (statement : Connection.Statement L) : Keeps P (keep statement) :=
  Keeps.bind (.update fun s hs => h.others s _ rfl rfl rfl rfl hs) fun _ => .pure _

theorem withStatement (h : OfStore P) {α : Type} (act : Attempt (Connection.Statement L × L) α) :
    Keeps P (withStatement act) := by
  intro s hs
  dsimp only [Session.withStatement, Attempt.run]
  split
  · exact h.others s _ rfl rfl rfl rfl hs
  · exact hs

/-- Fetching the names of the tables changes nothing in the store. -/
theorem fetchTables (h : OfStore P) : Keeps P fetchTables := by
  refine Keeps.bind .state fun s => ?_
  split
  · exact .pure _
  · exact Keeps.bind (.update fun s hs => h.others s _ rfl rfl rfl rfl hs) fun _ => .pure _
  · refine Keeps.bind .state fun s => ?_
    split
    · exact .pure _
    · exact h.within_line _

theorem tableNames (h : OfStore P) : Keeps P tableNames := by
  unfold Session.tableNames Catalog.tables
  refine Keeps.bind .state fun s => ?_
  split
  · exact .pure _
  · refine h.fetchTables.bind fun entries => ?_
    refine Keeps.bind (.update fun s hs => h.others s _ rfl rfl rfl rfl hs) fun _ => ?_
    exact (h.within_line _).bind fun _ => .pure _

theorem hasTable (h : OfStore P) (name : Value) : Keeps P (hasTable name) := by
  unfold Session.hasTable Catalog.hasTable
  split
  · refine h.tableNames.bind fun names => ?_
    split
    · exact .pure _
    · split
      · exact .pure _
      · exact .fail _
  · exact .pure _

theorem preloadTables (h : OfStore P) : Keeps P preloadTables :=
  h.tableNames.bind fun _ => .pure _

theorem forgetTables (h : OfStore P) : Keeps P forgetTables :=
  .update fun s hs => h.others s _ rfl rfl rfl rfl hs

end OfStore

namespace Steady

variable {P : Session L → Prop}

/-- Calls that change what a snapshot holds of a builder. -/
theorem within_builder (h : Steady P) {α : Type} (n : Nat) {act : Attempt Builder α}
    (hact : ∀ b, (act.run b).2.restore b.snapshot = b) : Keeps P (act.within (builderPart n)) :=
  fun s hs => h.builder s n _ (hact (s.builder n)) hs

/-- Calls that run statements. -/
theorem within_desk (h : Steady P) {α : Type} (n : Nat) {act : Attempt (Desk L) α}
    (hact : ∀ {R : Desk L → Prop}, Desk.Overlooks R → Keeps R act) :
    Keeps P (act.within (deskPart n)) := by
  intro s hs
  -- what is kept is the property of the session that the desk would be put back into
  have hdesk : Desk.Overlooks fun d => P ((deskPart n).put d s) := by
    have hline : ∀ (d : Desk L) line, P ((deskPart n).put d s) →
        P ((deskPart n).put { d with line } s) :=
      fun d _ hd => h.others ((deskPart n).put d s) _ rfl rfl rfl hd
    refine Desk.overlooks_of_parts hline fun d b hb hd => ?_
    have hset := fun hb' => h.builder ((deskPart n).put d s) n b hb' hd
    by_cases hn : n < s.builders.length
    · have hset := hset (by rw [deskPart, builder_set_self (s := { s with line := d.line }) hn, hb])
      simpa [deskPart, List.set_set] using hset
    · have hlength := Nat.le_of_not_lt hn
      refine h.others ((deskPart n).put d s) _ ?_ rfl rfl hd
      simp [deskPart, List.set_eq_of_length_le hlength]
  refine hact hdesk ⟨s.builder n, s.line⟩ ?_
  exact h.builder s n (s.builder n) rfl hs

end Steady

end Session

variable {P : Session L → Prop}

/-- Calls that build a query, if what they do to it is kept. -/
theorem Clause.keeps_performed (call : Clause) (receiver : Receiver)
    (h : Keeps P (call.apply.within (Session.queryPart receiver.number))) :
    Keeps P (call.perform receiver) := by
  cases receiver with
  | builder n => exact h.bind fun _ => Session.keeps_returned _
  | group n =>
    cases call with
    | condition c => exact h.bind fun _ => Session.keeps_returned _
    | _ => exact .fail _

namespace Session

/-- A property of sessions that everything keeps of which calls on a builder consist. -/
structure ServesBuilder (P : Session L → Prop) (n : Nat) : Prop where
  /-- Calls that run statements, -/
  desk : ∀ {α : Type} {act : Attempt (Desk L) α},
    (∀ {R : Desk L → Prop}, Desk.Overlooks R → Keeps R act) → Keeps P (act.within (deskPart n))
  /-- calls that change what a snapshot holds of the builder, -/
  builder : ∀ {α : Type} {act : Attempt Builder α},
    (∀ b, (act.run b).2.restore b.snapshot = b) → Keeps P (act.within (builderPart n))
  /-- and what is put by. -/
  keep : ∀ statement, Keeps P (keep statement)
  snapshots : ∀ f : Session L → Entries String Snapshot,
    Keeps P (.update fun s => { s with snapshots := f s })

/-- What all desks keep, the desk of one builder keeps. -/
theorem Steady.servesBuilder (h : Steady P) (n : Nat) : ServesBuilder P n where
  desk hact := h.within_desk n hact
  builder hact := h.within_builder n hact
  keep := h.ofStore.keep
  snapshots _ := .update fun s hs => h.others s _ rfl rfl rfl hs

end Session

open Session in
/-- Calls on a builder, if what they write into its query is kept. -/
theorem BuilderCall.keeps_performed {n : Nat} (h : ServesBuilder P n) (call : BuilderCall)
    (hkind : ∀ kind, call = .setKind kind → Keeps P (perform n call))
    (hpush : ∀ list token, call = .push list token → Keeps P (perform n call)) :
    Keeps P (perform n call) := by
  have hcompile : Keeps P (Builder.compile.within (builderPart n)) :=
    h.builder fun b => by rw [Builder.run_compile_same]; rfl
  have hcount : Keeps P (Builder.compileCount.within (builderPart n)) :=
    h.builder fun b => by rw [Builder.run_compileCount_same]; rfl
  cases call with
  | toSql => exact hcompile.bind fun _ => .pure _
  | compile => exact hcompile.bind fun _ => .pure _
  | compileCount => exact hcount.bind fun _ => .pure _
  | bindings => exact Keeps.bind .state fun _ => .pure _
  | dump => exact Keeps.bind .state fun _ => .pure _
  | get => exact (h.desk fun hd => hd.get).bind fun _ => .pure _
  | first => exact (h.desk fun hd => hd.first).bind fun _ => .pure _
  | value column => exact (h.desk fun hd => hd.value column).bind fun _ => .pure _
  | count => exact (h.desk fun hd => hd.count).bind fun _ => .pure _
  | execute => exact (h.desk fun hd => hd.execute).bind fun _ => .pure _
  | insertGetId => exact (h.desk fun hd => hd.insertGetId).bind fun _ => .pure _
  | lastInsertId => exact (h.desk fun hd => hd.lastInsertId).bind fun _ => .pure _
  | countTotal => exact (h.desk fun hd => hd.countTotal).bind fun _ => .pure _
  | paginate page perPage =>
    refine Keeps.bind .state fun s => ?_
    exact (h.desk fun hd => hd.paginate _ page perPage).bind fun _ => .pure _
  | run => exact (h.desk fun hd => hd.run).bind h.keep
  | snapshot name => exact Keeps.bind .state fun s => (h.snapshots _).bind fun _ => .pure _
  | restore name =>
    refine Keeps.bind .state fun s => Keeps.bind (.ofOption _ _) fun taken => ?_
    refine (h.builder fun b => rfl).bind fun _ => ?_
    exact Keeps.bind .state fun _ => .pure _
  | setKind kind => exact hkind kind rfl
  | push list token => exact hpush list token rfl

/-- Calls on the statement obtained last change nothing in the store. -/
theorem StatementCall.keeps_performed (h : Session.OfStore P) (call : StatementCall) :
    Keeps P call.perform := by
  cases call with
  | bind name value => exact (h.withStatement _).bind fun _ => .pure _
  | execute => exact (h.withStatement _).bind fun _ => .pure _
  | fetch => exact (h.withStatement _).bind fun _ => .pure _
  | fetchAll => exact (h.withStatement _).bind fun _ => .pure _
  | rowCount => exact (h.withStatement _).bind fun _ => .pure _

theorem ConnectionCall.keeps_performed (h : Session.OfStore P) (call : ConnectionCall) :
    Keeps P call.perform := by
  cases call with
  | prepare sql => exact (h.onLink _).bind h.keep
  | wraps =>
    rw [perform]
    split
    · exact h.onLink _
    · exact .fail _
  | _ => exact (h.onLink _).bind fun _ => .pure _

open Session in
/-- Calls on the database, if naming a table is kept. -/
theorem DatabaseCall.keeps_performed (h : Session.OfStore P) (call : DatabaseCall)
    (htable : ∀ register name label, call = .table register name label → ∀ n,
      Keeps P ((Clause.apply (.table name label)).within (queryPart n))) :
    Keeps P call.perform := by
  cases call with
  | query register => exact (h.newBuilder register).bind fun n => Keeps.bind .state fun _ => .pure _
  | table register name label =>
    refine (h.newBuilder register).bind fun n => (htable register name label rfl n).bind fun _ => ?_
    exact Keeps.bind .state fun _ => .pure _
  | lastInsertId => exact (h.onLink _).bind fun _ => .pure _
  | settings => exact Keeps.bind .state fun _ => .pure _
  | connection => exact .pure _
  | hasTable name => exact (h.hasTable name).bind fun _ => keeps_tablesAnswer _
  | tables => exact h.tableNames.bind fun _ => keeps_tablesAnswer _
  | preload => exact h.preloadTables.bind fun _ => keeps_tablesAnswer _
  | invalidate => exact h.forgetTables.bind fun _ => keeps_tablesAnswer _
  | setTables entries =>
    refine Keeps.bind (.update fun s hs => h.others s _ rfl rfl rfl rfl hs) fun _ => ?_
    exact keeps_tablesAnswer _

namespace Action

/-- The calls that build a query which an action makes. -/
def clauses : Action → List Clause
  | clause call => [call]
  | database (.table _ name label) => [.table name label]
  | _ => []

/-- A call that runs no other steps, if what it builds and what it asks of a builder is kept. -/
theorem keeps_performed_of_builders (h : Session.OfStore P) (site : Site) (here : Receiver)
    (action : Action)
    (hclauses : ∀ call ∈ action.clauses, ∀ n,
      Keeps P (call.apply.within (Session.queryPart n)))
    (hbuilder : ∀ n call, action = .builder call → Keeps P (BuilderCall.perform n call)) :
    Keeps P (action.perform site here) := by
  cases action with
  | clause call =>
    refine (Session.keeps_receiverOf site here).bind fun receiver => ?_
    exact call.keeps_performed receiver (hclauses call List.mem_cons_self _)
  | builder call =>
    exact (Session.keeps_needBuilder site here).bind fun n => hbuilder n call rfl
  | statement call => exact call.keeps_performed h
  | connection call => exact call.keeps_performed h
  | database call =>
    refine call.keeps_performed h ?_
    rintro register name label rfl n
    exact hclauses _ List.mem_cons_self n
  | raise message => exact .fail _

/-- A call that runs no other steps, if what it builds and writes into lists is kept. -/
theorem keeps_performed (h : Session.Steady P) (site : Site) (here : Receiver) (action : Action)
    (hclauses : ∀ call ∈ action.clauses, ∀ n,
      Keeps P (call.apply.within (Session.queryPart n)))
    (hpush : ∀ n list token, action = .builder (.push list token) →
      Keeps P (BuilderCall.perform n (.push list token))) :
    Keeps P (action.perform site here) := by
  refine keeps_performed_of_builders h.ofStore site here action hclauses fun n call hcall => ?_
  refine BuilderCall.keeps_performed (h.servesBuilder n) call ?_ ?_
  · rintro kind rfl
    exact (h.kind n kind).bind fun _ => .pure _
  · rintro list token rfl
    exact hpush n list token hcall

end Action

end BoundSql
