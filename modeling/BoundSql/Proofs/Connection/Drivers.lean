import BoundSql.Connection.Buffered
import BoundSql.Connection.Cursor
import BoundSql.Connection.Direct
import BoundSql.Proofs.Attempt.Part
import BoundSql.Proofs.Connection.Lockstep
import BoundSql.Proofs.Connection.Wire

/-!
# Drivers in lockstep

A driver that follows a script answers alike whatever values are bound: it counts calls by their
names and looks at no argument. What an adapter does beside the wire reads no argument either, so
two connections over drivers with the same script and the same planned errors go in lockstep, for
each of the three kinds of connections.
-/

namespace BoundSql

open Attempt

/-! ### Wires -/

/-- Wires that differ in the arguments of calls only. -/
structure Wire.Alike (w w' : Wire) : Prop where
  /-- A transaction is open on both or on neither. -/
  inTransaction : w'.inTransaction = w.inTransaction
  /-- The same errors are planned. -/
  plan : w'.plan = w.plan
  /-- The same calls arrived. -/
  names : w'.calls.map WireCall.name = w.calls.map WireCall.name
  /-- The books are the same. -/
  ledger : w'.ledger = w.ledger

namespace Wire

variable {w w' : Wire}

theorem Alike.refl (w : Wire) : Alike w w := ⟨rfl, rfl, rfl, rfl⟩

/-- Calls of one name may arrive with any arguments. -/
theorem Alike.called (h : Alike w w') (name : String) (args args' : List Value) :
    Alike (w.called name args) (w'.called name args') :=
  ⟨h.inTransaction, h.plan, by simp [Wire.called, h.names], h.ledger⟩

/-- As many calls of a name arrived on both. -/
theorem Alike.countCalls (h : Alike w w') (name : String) :
    w'.countCalls name = w.countCalls name := by
  have hcount : ∀ w : Wire,
      w.countCalls name = (w.calls.map WireCall.name).countP (· == name) := by
    intro w
    rw [List.countP_map]
    rfl
  rw [hcount, hcount, h.names]

/-- A transaction opens on both wires. -/
theorem Alike.opened (h : Alike w w') : Alike w.opened w'.opened := ⟨rfl, h.plan, h.names, h.ledger⟩

/-- A statement takes effect on both in the same place of the books. -/
theorem Alike.ran (h : Alike w w') (sql : String) : Alike (w.ran sql) (w'.ran sql) := by
  have hledger : (w'.ran sql).ledger = (w.ran sql).ledger := by
    unfold Wire.ran
    rw [h.inTransaction, h.ledger]
    split <;> rfl
  refine ⟨?_, ?_, ?_, hledger⟩
  · rw [inTransaction_ran, inTransaction_ran, h.inTransaction]
  · rw [plan_ran, plan_ran, h.plan]
  · rw [calls_ran, calls_ran, h.names]

theorem Alike.committed (h : Alike w w') : Alike w.committed w'.committed :=
  ⟨rfl, h.plan, h.names, by rw [Wire.committed, Wire.committed, h.ledger]⟩

theorem Alike.rolledBack (h : Alike w w') : Alike w.rolledBack w'.rolledBack :=
  ⟨rfl, h.plan, h.names, by rw [Wire.rolledBack, Wire.rolledBack, h.ledger]⟩

/-- Calls of one name raise the same error, whatever their arguments are. -/
theorem parallel_call (name : String) (args args' : List Value) :
    Parallel Alike Eq (call name args) (call name args') := by
  intro w w' h
  have hcalled := h.called name args args'
  rw [run_call, run_call, plannedFault?, plannedFault?, hcalled.countCalls, hcalled.plan]
  exact ⟨.refl _, hcalled⟩

/-- Calls that change the wire change both alike. -/
theorem parallel_signal (name : String) {effect : Wire → Wire}
    (heffect : ∀ w w', Alike w w' → Alike (effect w) (effect w')) :
    Parallel Alike Eq (signal name effect) (signal name effect) :=
  (parallel_call name [] []).bind fun _ _ _ => .update heffect

theorem parallel_commit : Parallel Alike Eq commit commit :=
  parallel_signal "raw.commit" fun _ _ h => h.committed

theorem parallel_rollback : Parallel Alike Eq rollback rollback :=
  parallel_signal "raw.rollback" fun _ _ h => h.rolledBack

/-- What the script says of a statement happens on both. -/
theorem parallel_perform (opens : Bool) (fault : Option DriverFault) (sql : String) :
    Parallel Alike Eq (perform opens fault sql) (perform opens fault sql) := by
  have hran : Parallel Alike Eq (perform false fault sql) (perform false fault sql) := by
    cases fault with
    | some fault => exact .fail _
    | none => exact .update fun _ _ h => h.ran sql
  cases opens with
  | true => exact Parallel.bind (.update fun _ _ h => h.opened) fun _ _ _ => hran
  | false => exact hran

/-! ### States around a wire -/

variable {σ α β : Type} {wire : Part σ Wire} {R : σ → σ → Prop} {Q : α → β → Prop}

/-- A relation between states that asks of their wires that they are alike, and no more. -/
structure Carries (wire : Part σ Wire) (R : σ → σ → Prop) : Prop where
  /-- The wires of related states are alike. -/
  get : ∀ s s', R s s' → Alike (wire.get s) (wire.get s')
  /-- Related states stay related with other wires that are alike. -/
  put : ∀ s s' w w', R s s' → Alike w w' → R (wire.put w s) (wire.put w' s')

/-- What goes on in parallel on wires does so in related states around them. -/
theorem Carries.within (h : Carries wire R) {act : Attempt Wire α} {act' : Attempt Wire β}
    (hact : Parallel Alike Q act act') : Parallel R Q (act.within wire) (act'.within wire) :=
  .within h.get h.put hact

/-- A relation may ask for more beside the states that hold the wires. -/
theorem Carries.ofSecond {ρ : Type} {P : ρ → ρ → Prop} (h : Carries wire R) :
    Carries wire.ofSecond (Both P R) :=
  ⟨fun _ _ hs => h.get _ _ hs.2, fun _ _ _ _ hs hw => ⟨hs.1, h.put _ _ _ _ hs.2 hw⟩⟩

/-- States that differ in the arguments of the calls on their wires only. -/
structure AlikeAt (wire : Part σ Wire) (s s' : σ) : Prop where
  /-- The wires are alike. -/
  wires : Alike (wire.get s) (wire.get s')
  /-- Nothing else differs. -/
  rest : s' = wire.put (wire.get s') s

/-- What does not look at the wire is the same. -/
theorem AlikeAt.same {s s' : σ} (h : AlikeAt wire s s') {f : σ → α}
    (hf : ∀ w s, f (wire.put w s) = f s) : f s' = f s := by
  rw [h.rest, hf]

/-- A part that can be read and written carries what is alike on the wire. -/
theorem carries_alikeAt (hwire : wire.Lawful)
    (hput : ∀ w w' s, wire.put w (wire.put w' s) = wire.put w s) : Carries wire (AlikeAt wire) := by
  refine ⟨fun _ _ h => h.wires, fun s s' w w' h hw => ⟨?_, ?_⟩⟩
  · rwa [hwire.get_put, hwire.get_put]
  · rw [hwire.get_put, hput, h.rest, hput]

/-- A change beside the wire is made to both. -/
theorem parallel_beside {change : σ → σ} (hget : ∀ s, wire.get (change s) = wire.get s)
    (hput : ∀ w s, change (wire.put w s) = wire.put w (change s)) :
    Parallel (AlikeAt wire) Eq (Attempt.update change) (Attempt.update change) := by
  refine .update fun s s' h => ⟨?_, ?_⟩
  · rw [hget, hget]
    exact h.wires
  · rw [hget, ← hput, ← h.rest]

end Wire

namespace Adapter

variable {σ α β : Type} {wire : Part σ Wire} {R : σ → σ → Prop} {Q : α → β → Prop}

/-- Whether a transaction is open is the same, so one can be begun on both or on neither. -/
theorem parallel_begin (h : Wire.Carries wire R) (nested : DriverFault) :
    Parallel R Eq (begin wire nested) (begin wire nested) := by
  refine Parallel.state.bind fun s s' hs => ?_
  rw [(h.get s s' hs).inTransaction]
  split
  · exact .fail _
  · exact h.within (.update fun _ _ hw => hw.opened)

/-- Adapters over drivers that serve alike end what was opened alike. -/
theorem parallel_execute (h : Wire.Carries wire R) (own : Failure → Bool) {serve : Attempt σ α}
    {serve' : Attempt σ β} (hserve : Parallel R Q serve serve') :
    Parallel R Eq (execute wire own serve) (execute wire own serve') := by
  refine Parallel.state.bind fun s s' hs => hserve.outcome.bind fun outcome outcome' hout => ?_
  refine Parallel.state.bind fun t t' ht => ?_
  rw [(h.get s s' hs).inTransaction, (h.get t t' ht).inTransaction]
  cases hout with
  | ok _ =>
    dsimp only
    split
    · exact h.within Wire.parallel_commit
    · exact .pure rfl
  | error f =>
    dsimp only
    split
    · exact (h.within Wire.parallel_rollback).bind fun _ _ _ => .fail f
    · exact .fail f

end Adapter

/-! ### Direct connections -/

namespace Direct

/-- Databases that differ in the arguments of calls only. -/
abbrev Alike : Direct → Direct → Prop := Wire.AlikeAt wirePart

/-- The connection carries what is alike on its wire. -/
theorem carries_alike : Wire.Carries wirePart Alike :=
  Wire.carries_alikeAt ⟨fun _ _ => rfl, fun _ => rfl⟩ fun _ _ _ => rfl

/-- A call is answered alike whatever its arguments are. -/
theorem parallel_call (name : String) (args args' : List Value) :
    Parallel Alike Eq ((Wire.call name args).within wirePart)
      ((Wire.call name args').within wirePart) :=
  carries_alike.within (Wire.parallel_call name args args')

/-- So do calls beside a statement. -/
theorem parallel_callBeside (name : String) (args args' : List Value) :
    Parallel (Both Eq Alike) Eq ((Wire.call name args).within farEnd)
      ((Wire.call name args').within farEnd) :=
  carries_alike.ofSecond.within (Wire.parallel_call name args args')

/-- Databases with the same script answer alike. -/
def lockstep : Lockstep Direct Direct where
  link := Alike
  statement := Eq
  prepare sql := by
    refine (parallel_call "prepare" [.text sql] [.text sql]).bind fun _ _ _ => ?_
    refine Parallel.state.bind fun d d' h => ?_
    rw [h.same (f := results) fun _ _ => rfl]
    exact Parallel.bind (Wire.parallel_beside (fun _ => rfl) fun _ _ => rfl) fun _ _ _ => .pure rfl
  bind name value value' := parallel_callBeside "bind" _ _
  execute := by
    refine (parallel_callBeside "execute" [] []).bind fun _ _ _ => .update ?_
    rintro ⟨statement, d⟩ ⟨_, d'⟩ ⟨rfl, h⟩
    exact ⟨rfl, carries_alike.put d d' _ _ h (h.wires.ran _)⟩
  fetch := by
    refine (parallel_callBeside "fetch" [] []).bind fun _ _ _ => Parallel.state.bind ?_
    rintro ⟨statement, _⟩ ⟨_, _⟩ ⟨rfl, _⟩
    refine Parallel.bind (.update ?_) fun _ _ _ => .pure rfl
    rintro ⟨statement, d⟩ ⟨_, d'⟩ ⟨rfl, h⟩
    exact ⟨rfl, h⟩
  fetchAll := by
    refine (parallel_callBeside "fetch_all" [] []).bind fun _ _ _ => Parallel.state.bind ?_
    rintro ⟨statement, _⟩ ⟨_, _⟩ ⟨rfl, _⟩
    refine Parallel.bind (.update ?_) fun _ _ _ => .pure rfl
    rintro ⟨statement, d⟩ ⟨_, d'⟩ ⟨rfl, h⟩
    exact ⟨rfl, h⟩
  rowCount := by
    refine (parallel_callBeside "row_count" [] []).bind fun _ _ _ => Parallel.state.bind ?_
    rintro ⟨_, d⟩ ⟨_, d'⟩ ⟨_, h⟩
    exact .pure (h.same (f := affected) fun _ _ => rfl).symm
  lastInsertId := by
    refine (parallel_call "last_insert_id" [] []).bind fun _ _ _ => ?_
    exact Parallel.state.bind fun d d' h => .pure (h.same (f := insertId) fun _ _ => rfl).symm
  inTransaction _ _ h := h.wires.inTransaction
  begin := carries_alike.within (Wire.parallel_signal "begin" fun _ _ h => h.opened)
  commit := carries_alike.within (Wire.parallel_signal "commit" fun _ _ h => h.committed)
  rollback := carries_alike.within (Wire.parallel_signal "rollback" fun _ _ h => h.rolledBack)
  tableNames := .pure rfl
  close _ _ h := h
  wraps := rfl

end Direct

/-! ### Cursor connections -/

namespace CursorLink

/-- Statements that differ in their bindings only. -/
structure Statement.Alike (s s' : Statement) : Prop where
  /-- The text is the same. -/
  sql : s'.sql = s.sql
  /-- So is the cursor. -/
  cursor : s'.cursor = s.cursor

/-- Adapters that differ in the arguments of calls only. -/
abbrev Alike : CursorLink → CursorLink → Prop := Wire.AlikeAt wirePart

/-- The adapter carries what is alike on its wire. -/
theorem carries_alike : Wire.Carries wirePart Alike :=
  Wire.carries_alikeAt ⟨fun _ _ => rfl, fun _ => rfl⟩ fun _ _ _ => rfl

/-- A call of the adapter is answered alike whatever its arguments are. -/
theorem parallel_call (name : String) (args args' : List Value) :
    Parallel Alike Eq (call name args) (call name args') :=
  carries_alike.within (Wire.parallel_call name args args')

/-- Both are closed or neither is. -/
theorem parallel_requireOpen : Parallel Alike Eq requireOpen requireOpen := by
  refine Parallel.state.bind fun l l' h => ?_
  rw [h.same (f := closed) fun _ _ => rfl]
  split
  · exact .fail _
  · exact .pure rfl

/-- The drivers take the same from their scripts. -/
theorem parallel_perform (sql : String) : Parallel Alike Eq (perform sql) (perform sql) := by
  refine Parallel.state.bind fun l l' h => ?_
  rw [h.same (f := script) fun _ _ => rfl]
  refine Parallel.bind (Wire.parallel_beside (fun _ => rfl) fun _ _ => rfl) fun _ _ _ => ?_
  exact (carries_alike.within (Wire.parallel_perform _ _ sql)).bind fun _ _ _ => .pure rfl

/-- A statement is served alike whatever is bound to it. -/
theorem parallel_serve : Parallel (Both Statement.Alike Alike) Eq serve serve := by
  refine Parallel.state.bind ?_
  rintro ⟨s, _⟩ ⟨s', _⟩ ⟨hs, _⟩
  have hrun : Parallel Alike Eq (runOnCursor s) (runOnCursor s') := by
    unfold runOnCursor
    rw [hs.sql]
    exact (parallel_call "cursor.execute" _ _).bind fun _ _ _ => parallel_perform s.sql
  have hbeside : Parallel (Both Statement.Alike Alike) Eq ((runOnCursor s).within .second)
      ((runOnCursor s').within .second) :=
    .within (fun _ _ h => h.2) (fun _ _ _ _ h hl => ⟨h.1, hl⟩) hrun
  refine hbeside.bind ?_
  rintro outcome _ rfl
  refine Parallel.bind (.update fun u u' h => ⟨⟨h.1.sql, ?_⟩, h.2⟩) fun _ _ _ => .pure rfl
  dsimp only
  rw [h.1.cursor]

/-- A cursor is refused alike. -/
theorem parallel_prepare (sql : String) :
    Parallel Alike Statement.Alike (prepare sql) (prepare sql) := by
  intro l l' h
  have hcursor : Parallel Alike Eq (do call "cursor" []; requireOpen)
      (do call "cursor" []; requireOpen) :=
    (parallel_call "cursor" [] []).bind fun _ _ _ => parallel_requireOpen
  obtain ⟨hout, hend⟩ := hcursor l l' h
  unfold prepare
  dsimp only [Attempt.run] at hout hend ⊢
  generalize (do call "cursor" []; requireOpen : Attempt CursorLink Unit) l = r at hout hend ⊢
  generalize (do call "cursor" []; requireOpen : Attempt CursorLink Unit) l' = r' at hout hend ⊢
  obtain ⟨outcome, l₁⟩ := r
  obtain ⟨outcome', l₁'⟩ := r'
  cases hout with
  | ok _ => exact ⟨.ok ⟨rfl, rfl⟩, hend⟩
  | error f =>
    cases f with
    | driver fault =>
      dsimp only
      split
      · exact ⟨.error _, hend⟩
      · exact ⟨.error _, hend⟩
    | _ => exact ⟨.error _, hend⟩

/-- So is a call on behalf of a statement. -/
theorem parallel_callBeside (name : String) (args : List Value) :
    Parallel (Both Statement.Alike Alike) Eq ((call name args).within .second)
      ((call name args).within .second) :=
  .within (fun _ _ h => h.2) (fun _ _ _ _ h hl => ⟨h.1, hl⟩) (parallel_call name args args)

/-- The identifier of the row inserted last is the same. -/
theorem parallel_lastInsertId : Parallel Alike Eq lastInsertId lastInsertId := by
  refine (parallel_call "raw.execute" _ _).bind fun _ _ _ => ?_
  refine parallel_requireOpen.bind fun _ _ _ => ?_
  refine (parallel_call "cursor.fetchone" [] []).bind fun _ _ _ => ?_
  refine Parallel.state.bind fun l l' h => ?_
  rw [h.same (f := rowId) fun _ _ => rfl]
  exact .ofExcept_bind fun _ _ => .pure rfl

/-- A transaction begins on both or on neither. -/
theorem parallel_begin : Parallel Alike Eq begin begin :=
  (parallel_call "raw.execute" _ _).bind fun _ _ _ =>
    parallel_requireOpen.bind fun _ _ _ => Adapter.parallel_begin carries_alike nestedFault

/-- The names of the tables are the same, and so is a failure behind the query for them. -/
theorem parallel_tableNames : Parallel Alike Eq tableNames tableNames := by
  refine (parallel_call "raw.execute" _ _).bind fun _ _ _ => ?_
  refine parallel_requireOpen.bind fun _ _ _ => ?_
  refine (parallel_perform tablesQuery).bind ?_
  rintro outcome _ rfl
  have hnames : Parallel Alike Eq
      (do call "cursor.fetchall" []; .ofExcept (outcome.rows.mapM firstCell))
      (do call "cursor.fetchall" []; .ofExcept (outcome.rows.mapM firstCell)) :=
    (parallel_call "cursor.fetchall" [] []).bind fun _ _ _ => .ofExcept (.refl _)
  refine hnames.outcome.bind fun names names' hagrees => ?_
  exact (parallel_call "cursor.close" [] []).bind fun _ _ _ => .ofExcept hagrees

/-- Adapters over drivers with the same script answer alike. -/
def lockstep : Lockstep CursorLink CursorLink where
  link := Alike
  statement := Statement.Alike
  prepare := parallel_prepare
  bind _ _ _ := .update fun _ _ h => ⟨⟨h.1.sql, h.1.cursor⟩, h.2⟩
  execute := Adapter.parallel_execute carries_alike.ofSecond isOwnFault parallel_serve
  fetch := by
    refine (parallel_callBeside "cursor.fetchone" []).bind fun _ _ _ => Parallel.state.bind ?_
    rintro ⟨s, _⟩ ⟨s', _⟩ ⟨h, _⟩
    dsimp only
    rw [h.cursor]
    exact Parallel.bind (.update fun _ _ h => ⟨⟨h.1.sql, rfl⟩, h.2⟩) fun _ _ _ => .pure rfl
  fetchAll := by
    refine (parallel_callBeside "cursor.fetchall" []).bind fun _ _ _ => Parallel.state.bind ?_
    rintro ⟨s, _⟩ ⟨s', _⟩ ⟨h, _⟩
    dsimp only
    rw [h.cursor]
    exact Parallel.bind (.update fun _ _ h => ⟨⟨h.1.sql, rfl⟩, h.2⟩) fun _ _ _ => .pure rfl
  rowCount := Parallel.state.bind fun _ _ h => .pure (by rw [h.1.cursor])
  lastInsertId := parallel_lastInsertId
  inTransaction _ _ h := h.wires.inTransaction
  begin := parallel_begin
  commit := carries_alike.within Wire.parallel_commit
  rollback := carries_alike.within Wire.parallel_rollback
  tableNames := parallel_tableNames
  close _ _ h := ⟨h.wires, by rw [h.rest]; rfl⟩
  wraps := rfl

end CursorLink

/-! ### Buffered connections -/

namespace BufferedLink

/-- Statements that differ in their bindings only. -/
structure Statement.Alike (s s' : Statement) : Prop where
  /-- The text is the same. -/
  sql : s'.sql = s.sql
  /-- So are the rows of the result, -/
  rows : s'.rows = s.rows
  /-- how many of them have been handed out, -/
  position : s'.position = s.position
  /-- and the number of changed rows. -/
  rowCount : s'.rowCount = s.rowCount

/-- What is left to read is the same, and so is the failure where nothing is. -/
theorem Statement.Alike.result {s s' : Statement} (h : s.Alike s') : s'.result = s.result := by
  unfold Statement.result Statement.plainSql
  rw [h.rows, h.sql]

/-- Adapters that differ in the arguments of calls only. -/
abbrev Alike : BufferedLink → BufferedLink → Prop := Wire.AlikeAt wirePart

/-- The adapter carries what is alike on its wire. -/
theorem carries_alike : Wire.Carries wirePart Alike :=
  Wire.carries_alikeAt ⟨fun _ _ => rfl, fun _ => rfl⟩ fun _ _ _ => rfl

/-- A call of the adapter is answered alike whatever its arguments are. -/
theorem parallel_call (name : String) (args args' : List Value) :
    Parallel Alike Eq (call name args) (call name args') :=
  carries_alike.within (Wire.parallel_call name args args')

/-- Both are closed or neither is. -/
theorem parallel_prepare (sql : String) :
    Parallel Alike Statement.Alike (prepare sql) (prepare sql) := by
  refine Parallel.state.bind fun l l' h => ?_
  rw [h.same (f := closed) fun _ _ => rfl]
  split
  · exact .fail _
  · exact .pure ⟨rfl, rfl, rfl, rfl⟩

/-- The drivers take the same from their scripts. -/
theorem parallel_perform {s s' : Statement} (h : s.Alike s') :
    Parallel Alike Eq (perform s) (perform s') := by
  unfold perform
  rw [h.sql]
  refine (parallel_call "raw.execute" _ _).bind fun _ _ _ => ?_
  refine Parallel.state.bind fun l l' hl => ?_
  rw [hl.same (f := script) fun _ _ => rfl]
  refine Parallel.bind (Wire.parallel_beside (fun _ => rfl) fun _ _ => rfl) fun _ _ _ => ?_
  exact (carries_alike.within (Wire.parallel_perform _ _ s.sql)).bind fun _ _ _ => .pure rfl

/-- The same result is kept, as far as it can be read. -/
theorem parallel_keep (outcome : BufferedOutcome) :
    Parallel (Both Statement.Alike Alike) Eq (keep outcome) (keep outcome) := by
  refine Parallel.bind (.update fun _ _ h => ?_) fun _ _ _ => ?_
  · exact ⟨⟨h.1.sql, h.1.rows, h.1.position, rfl⟩, h.2⟩
  refine .ofExcept_bind fun insertId _ => Parallel.bind (.update fun _ _ h => ?_) fun _ _ _ => ?_
  · exact ⟨h.1, h.2.wires, by rw [h.2.rest]; rfl⟩
  refine .ofExcept_bind fun rows _ => Parallel.bind (.update fun _ _ h => ?_) fun _ _ _ => .pure rfl
  exact ⟨⟨h.1.sql, rfl, rfl, h.1.rowCount⟩, h.2⟩

/-- A statement is served alike whatever is bound to it. -/
theorem parallel_serve : Parallel (Both Statement.Alike Alike) Eq serve serve := by
  refine Parallel.state.bind ?_
  rintro ⟨s, _⟩ ⟨s', _⟩ ⟨hs, _⟩
  have hperform : Parallel (Both Statement.Alike Alike) Eq ((perform s).within .second)
      ((perform s').within .second) :=
    .within (fun _ _ h => h.2) (fun _ _ _ _ h hl => ⟨h.1, hl⟩) (parallel_perform hs)
  refine hperform.bind ?_
  rintro outcome _ rfl
  exact parallel_keep outcome

/-- A transaction begins on both or on neither, and is held by both or by neither. -/
theorem parallel_begin : Parallel Alike Eq begin begin :=
  (parallel_call "raw.begin" [] []).bind fun _ _ _ =>
    (Adapter.parallel_begin carries_alike nestedFault).bind fun _ _ _ =>
      Wire.parallel_beside (fun _ => rfl) fun _ _ => rfl

/-- Both hold a transaction or neither does, so the same call ends it. -/
theorem parallel_finish (held own : String) {effect : Wire → Wire}
    (heffect : ∀ w w', Wire.Alike w w' → Wire.Alike (effect w) (effect w')) :
    Parallel Alike Eq (finish held own effect) (finish held own effect) := by
  refine Parallel.state.bind fun l l' h => ?_
  rw [h.same (f := holdsTransaction) fun _ _ => rfl]
  refine Parallel.bind (Wire.parallel_beside (fun _ => rfl) fun _ _ => rfl) fun _ _ _ => ?_
  exact carries_alike.within (Wire.parallel_signal _ heffect)

/-- The queries of an inspection find the same names or fail alike. -/
theorem parallel_queryTables : Parallel Alike Eq queryTables queryTables := by
  refine Parallel.state.bind fun l l' h => ?_
  rw [h.same (f := inspectionFaults) fun _ _ => rfl]
  refine Parallel.bind (Wire.parallel_beside (fun _ => rfl) fun _ _ => rfl) fun _ _ _ => ?_
  cases l.inspectionFaults.headD none with
  | some fault => exact .fail _
  | none => exact Parallel.state.bind fun l l' h => .pure (h.same (f := tables) fun _ _ => rfl).symm

/-- An inspection sends the same call and opens a transaction alike. -/
theorem parallel_tableNames : Parallel Alike Eq tableNames tableNames := by
  refine Parallel.state.bind fun _ _ _ => ?_
  refine (parallel_call "inspect" _ _).bind fun _ _ _ => Parallel.state.bind fun l l' h => ?_
  rw [h.same (f := inspectionOpens) fun _ _ => rfl]
  cases l.inspectionOpens with
  | true =>
    exact (carries_alike.within (.update fun _ _ h => h.opened)).bind fun _ _ _ =>
      parallel_queryTables
  | false => exact parallel_queryTables

/-- Adapters over drivers with the same script answer alike. -/
def lockstep : Lockstep BufferedLink BufferedLink where
  link := Alike
  statement := Statement.Alike
  prepare := parallel_prepare
  bind _ _ _ := .update fun _ _ h => ⟨⟨h.1.sql, h.1.rows, h.1.position, h.1.rowCount⟩, h.2⟩
  execute := Adapter.parallel_execute carries_alike.ofSecond isOwnFault parallel_serve
  fetch := by
    refine .within (fun _ _ h => h.1) (fun _ _ _ _ h hs => ⟨hs, h.2⟩) ?_
    refine Parallel.state.bind fun s s' h => ?_
    rw [h.result, h.position]
    refine .ofExcept_bind fun rows _ => ?_
    split
    · exact .pure rfl
    · refine Parallel.bind (.update fun _ _ h => ?_) fun _ _ _ => .pure rfl
      exact ⟨h.sql, h.rows, by rw [h.position], h.rowCount⟩
  fetchAll := by
    refine .within (fun _ _ h => h.1) (fun _ _ _ _ h hs => ⟨hs, h.2⟩) ?_
    refine Parallel.state.bind fun s s' h => ?_
    rw [h.result, h.position]
    refine .ofExcept_bind fun rows _ => ?_
    refine Parallel.bind (.update fun _ _ h => ?_) fun _ _ _ => .pure rfl
    exact ⟨h.sql, h.rows, rfl, h.rowCount⟩
  rowCount := by
    refine .within (fun _ _ h => h.1) (fun _ _ _ _ h hs => ⟨hs, h.2⟩) ?_
    refine Parallel.state.bind fun s s' h => ?_
    rw [h.result]
    exact .ofExcept_bind fun rows _ => .pure h.rowCount.symm
  lastInsertId := Parallel.state.bind fun l l' h =>
    .pure (by rw [h.same (f := insertId) fun _ _ => rfl])
  inTransaction _ _ h := h.wires.inTransaction
  begin := parallel_begin
  commit := parallel_finish _ _ fun _ _ h => h.committed
  rollback := parallel_finish _ _ fun _ _ h => h.rolledBack
  tableNames := parallel_tableNames
  close _ _ h := ⟨h.wires, by rw [h.rest]; rfl⟩
  wraps := rfl

end BufferedLink

end BoundSql
