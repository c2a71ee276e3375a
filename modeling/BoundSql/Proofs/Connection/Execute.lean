import BoundSql.Connection.Buffered
import BoundSql.Connection.Cursor
import BoundSql.Proofs.Attempt.Part
import BoundSql.Proofs.Connection.Wire

/-!
# Running a prepared statement

Both adapters run a statement in the same way: the driver serves it, and the adapter settles the
wire. So a transaction that the driver opened is ended, unless the driver failed with an error of a
class that is not its own; then it stays open. A transaction that was open before is not touched.
-/

namespace BoundSql

open Attempt

/-! ### Every adapter -/

namespace Adapter

variable {σ α : Type} {wire : Part σ Wire} {own : Failure → Bool} {serve : Attempt σ α} {s t : σ}
  {outcome : Except Failure α}

/-- What follows the driver depends on its outcome and on the wire before and behind it. -/
theorem run_execute_served (hserve : serve.run s = (outcome, t)) :
    (execute wire own serve).run s =
      let endsNow := !(wire.get s).inTransaction && (wire.get t).inTransaction
      Attempt.run (match outcome with
        | .ok _ => if endsNow then Wire.commit.within wire else pure ()
        | .error f => do
          if own f && endsNow then Wire.rollback.within wire
          .fail f) t := by
  rw [execute, run_bind, run_state]
  dsimp only
  rw [run_bind, run_outcome, hserve]
  rfl

/-- Where no transaction was opened for a statement, it comes out as the driver did and nothing is
sent behind it. -/
theorem run_execute_idle (hserve : serve.run s = (outcome, t))
    (h : (wire.get s).inTransaction = true ∨ (wire.get t).inTransaction = false) :
    (execute wire own serve).run s = (outcome.map fun _ => (), t) := by
  have hends : (!(wire.get s).inTransaction && (wire.get t).inTransaction) = false := by
    rcases h with h | h <;> simp [h]
  rw [run_execute_served hserve, hends]
  cases outcome with
  | ok a => rfl
  | error f =>
    dsimp only
    rw [Bool.and_false]
    rfl

/-- A transaction that was opened for a statement is committed behind a success. -/
theorem run_execute_ok {a : α} (hserve : serve.run s = (.ok a, t))
    (hclosed : (wire.get s).inTransaction = false) (hopened : (wire.get t).inTransaction = true) :
    (execute wire own serve).run s = (Wire.commit.within wire).run t := by
  rw [run_execute_served hserve, hclosed, hopened]
  rfl

/-- It is rolled back behind an error of the driver's own classes. -/
theorem run_execute_own {f : Failure} (hserve : serve.run s = (.error f, t))
    (hclosed : (wire.get s).inTransaction = false) (hopened : (wire.get t).inTransaction = true)
    (hown : own f = true) :
    (execute wire own serve).run s =
      let r := (Wire.rollback.within wire).run t
      (r.1.bind fun _ => .error f, r.2) := by
  have hends : (execute wire own serve).run s =
      (Wire.rollback.within wire >>= fun _ => Attempt.fail f).run t := by
    rw [run_execute_served hserve, hclosed, hopened]
    dsimp only
    rw [hown]
    rfl
  rw [hends, run_bind]
  rcases (Wire.rollback.within wire).run t with ⟨ended, u⟩
  cases ended <;> rfl

/-- Any other failure leaves everything as it is. -/
theorem run_execute_foreign {f : Failure} (hserve : serve.run s = (.error f, t))
    (hown : own f = false) : (execute wire own serve).run s = (.error f, t) := by
  rw [run_execute_served hserve]
  dsimp only
  rw [hown]
  rfl

/-- Where the ends of transactions pass, a statement comes out as the driver did and the wire is
settled. -/
theorem run_execute (hwire : wire.Lawful) (hserve : serve.run s = (outcome, t))
    (h : (wire.get s).inTransaction = false →
      (wire.get t).Unplanned "raw.commit" ∧ (wire.get t).Unplanned "raw.rollback") :
    (execute wire own serve).run s = (outcome.map fun _ => (),
      wire.put ((wire.get t).settled own (wire.get s).inTransaction outcome) t) := by
  by_cases hidle : (wire.get s).inTransaction = true ∨ (wire.get t).inTransaction = false
  · have hkept : (wire.get t).settled own (wire.get s).inTransaction outcome = wire.get t :=
      if_pos (by simpa using hidle)
    rw [run_execute_idle hserve hidle, hkept, hwire.put_get]
  · obtain ⟨hclosed, hopened⟩ : (wire.get s).inTransaction = false ∧
        (wire.get t).inTransaction = true := by simpa using hidle
    obtain ⟨hcommit, hrollback⟩ := h hclosed
    unfold Wire.settled
    rw [hclosed, hopened]
    cases outcome with
    | ok a =>
      rw [run_execute_ok hserve hclosed hopened, run_within, Wire.commit,
        Wire.run_signal_unplanned _ hcommit]
      rfl
    | error f =>
      cases hown : own f with
      | true =>
        rw [run_execute_own hserve hclosed hopened hown, run_within, Wire.rollback,
          Wire.run_signal_unplanned _ hrollback]
        simp [hown, Except.bind, Except.map]
      | false =>
        rw [run_execute_foreign hserve hown]
        simp [hown, hwire.put_get, Except.map]

/-- What ends a transaction changes nothing but the wire, and plans no errors. -/
theorem exists_run_execute (hwire : wire.Lawful) (own : Failure → Bool) (serve : Attempt σ α)
    (s : σ) : ∃ w, w.plan = (wire.get (serve.run s).2).plan ∧
      ((execute wire own serve).run s).2 = wire.put w (serve.run s).2 := by
  rcases hserve : serve.run s with ⟨outcome, t⟩
  have hsame : t = wire.put (wire.get t) t := (hwire.put_get t).symm
  by_cases hidle : (wire.get s).inTransaction = true ∨ (wire.get t).inTransaction = false
  · exact ⟨_, rfl, by rw [run_execute_idle hserve hidle]; exact hsame⟩
  · obtain ⟨hclosed, hopened⟩ : (wire.get s).inTransaction = false ∧
        (wire.get t).inTransaction = true := by simpa using hidle
    cases outcome with
    | ok a =>
      refine ⟨_, ?_, by rw [run_execute_ok hserve hclosed hopened, run_within]⟩
      exact Wire.plan_signal "raw.commit" Wire.committed (fun _ => rfl) _
    | error f =>
      cases hown : own f with
      | true =>
        refine ⟨_, ?_, by rw [run_execute_own hserve hclosed hopened hown, run_within]⟩
        exact Wire.plan_signal "raw.rollback" Wire.rolledBack (fun _ => rfl) _
      | false => exact ⟨_, rfl, by rw [run_execute_foreign hserve hown]; exact hsame⟩

/-- A statement answers only where the driver did. -/
theorem exists_answer_of_execute (h : ((execute wire own serve).run s).1 = .ok ()) :
    ∃ a t, serve.run s = (.ok a, t) := by
  rcases hserve : serve.run s with ⟨outcome, t⟩
  cases outcome with
  | ok a => exact ⟨a, t, rfl⟩
  | error f =>
    rw [run_execute_served hserve] at h
    dsimp only at h
    split at h
    · obtain ⟨_, _, _, hfail⟩ := run_bind_eq_ok (Prod.ext h rfl)
      cases hfail
    · cases h

end Adapter

/-- How running a statement comes out and what it leaves of transactions: `driver` is what the
driver alone came to, and `own` tells its own failures. -/
structure Wire.Settles {α : Type} (before : Wire) (sent : WireCall) (own : Failure → Bool)
    (driver : Except Failure α × Wire) (after : Except Failure Unit × Wire) : Prop where
  /-- It comes out as the driver did. -/
  outcome : after.1 = driver.1.map fun _ => ()
  /-- Where no transaction was open before, one is open afterwards exactly if the driver opened it
  and failed with an error that is not its own. -/
  alone : before.inTransaction = false → (after.2.inTransaction = true ↔
    driver.2.inTransaction = true ∧ ∃ f, driver.1 = .error f ∧ own f = false)
  /-- A transaction that was open before stays open, and no call is sent but the one that runs the
  statement. -/
  joined : before.inTransaction = true →
    after.2.inTransaction = true ∧ after.2.calls = before.calls ++ [sent]

/-- An adapter settles the wire behind a driver that serves a statement with one call. -/
theorem Adapter.settles_execute {σ α : Type} {wire : Part σ Wire} (hwire : wire.Lawful)
    (own : Failure → Bool) (serve : Attempt σ α) (s : σ) (sent : WireCall)
    (hserve : ∃ opens effective sql, wire.get (serve.run s).2 =
      ((wire.get s).called sent.name sent.args).served opens effective sql)
    (h : (wire.get s).inTransaction = false →
      (wire.get s).Unplanned "raw.commit" ∧ (wire.get s).Unplanned "raw.rollback") :
    let driver := serve.run s
    let r := (execute wire own serve).run s
    (wire.get s).Settles sent own (driver.1, wire.get driver.2) (r.1, wire.get r.2) := by
  obtain ⟨opens, effective, sql, hserve⟩ := hserve
  dsimp only
  rcases hdriver : serve.run s with ⟨outcome, t⟩
  rw [hdriver] at hserve
  have hends : ∀ name, (wire.get s).Unplanned name → (wire.get t).Unplanned name := by
    intro name hname p hp
    rw [hserve, Wire.plan_served] at hp
    exact hname p hp
  rw [run_execute hwire hdriver fun hclosed => (h hclosed).imp (hends _) (hends _)]
  dsimp only
  rw [hwire.get_put]
  refine ⟨rfl, fun halone => ?_, fun hjoined => ?_⟩
  · dsimp only
    rw [halone]
    exact Wire.inTransaction_settled own outcome _
  · dsimp only
    rw [hjoined, Wire.settled_of_joins, hserve]
    simp [Wire.called, hjoined]

/-! ### The drivers -/

/-- What a driver does next stands in its script, if the script says anything. -/
theorem headD_mem_or_eq {ω : Type} (script : List ω) (silent : ω) :
    script.headD silent ∈ script ∨ script.headD silent = silent := by
  cases script with
  | nil => exact .inr rfl
  | cons o rest => exact .inl List.mem_cons_self

namespace CursorLink

theorem lawful_wirePart : wirePart.Lawful := ⟨fun _ _ => rfl, fun _ => rfl⟩

/-- A call to the driver changes nothing but the wire. -/
theorem run_call (name : String) (args : List Value) (link : CursorLink) :
    (call name args).run link =
      (((Wire.call name args).run link.wire).1,
        { link with wire := link.wire.called name args }) := by
  rw [call, run_within]
  dsimp only [wirePart]
  rw [Wire.run_call]

/-- The driver takes what it does next from its script. -/
theorem run_perform (sql : String) (link : CursorLink) :
    (perform sql).run link =
      let outcome := link.script.headD .empty
      ((match outcome.fault with
        | some fault => .error (.driver fault)
        | none => .ok outcome), { link with
        script := link.script.drop 1
        wire := link.wire.served outcome.opens outcome.fault.isNone sql }) := by
  rw [perform, run_bind, run_state]
  dsimp only
  rw [run_bind, run_update]
  dsimp only
  rw [run_bind, run_within, Wire.run_perform]
  cases (link.script.headD .empty).fault <;> rfl

/-- The driver serves a statement after one call. Where it opens a transaction and fails, the script
says so. -/
theorem run_runOnCursor (statement : Statement) (link : CursorLink) :
    let driver := (runOnCursor statement).run link
    ∃ opens, driver.2.wire =
        (link.wire.called "cursor.execute"
          (Adapter.arguments statement.sql statement.params)).served opens driver.1.isOk
            statement.sql ∧
      (∀ f, opens = true → driver.1 = .error f →
        ∃ o ∈ link.script, ∃ fault, o.fault = some fault ∧ f = .driver fault) ∧
      ∀ o ∈ driver.2.script, o ∈ link.script := by
  dsimp only
  rw [runOnCursor, run_bind, run_call]
  cases hcall : ((Wire.call "cursor.execute"
    (Adapter.arguments statement.sql statement.params)).run link.wire).1 with
  | error f => exact ⟨false, rfl, nofun, fun _ ho => ho⟩
  | ok _ =>
    dsimp only
    rw [run_perform]
    dsimp only
    have hscript : ∀ o ∈ link.script.drop 1, o ∈ link.script := fun o ho => List.mem_of_mem_drop ho
    cases hfault : (link.script.headD .empty).fault with
    | none => exact ⟨_, rfl, nofun, hscript⟩
    | some fault =>
      refine ⟨_, rfl, ?_, hscript⟩
      rintro f _ ⟨⟩
      rcases headD_mem_or_eq link.script .empty with ho | ho
      · exact ⟨_, ho, fault, hfault, rfl⟩
      · rw [ho] at hfault
        cases hfault

/-- Serving a statement comes out as the driver does, leaves the link as it does and keeps the text
of the statement. -/
theorem run_serve (statement : Statement) (link : CursorLink) :
    let driver := (runOnCursor statement).run link
    ∃ statement' : Statement, statement'.sql = statement.sql ∧
      serve.run (statement, link) = (driver.1, statement', driver.2) := by
  dsimp only
  rw [serve, run_bind, run_state]
  dsimp only
  rw [run_bind, run_within]
  dsimp only [Part.second]
  rcases (runOnCursor statement).run link with ⟨outcome, link'⟩
  cases outcome with
  | ok outcome =>
    exact ⟨{ statement with cursor := statement.cursor.after outcome }, rfl, rfl⟩
  | error f => exact ⟨statement, rfl, rfl⟩

/-- A statement is served with one call. Where the driver opens a transaction for it and fails, the
script says so. -/
theorem wire_serve (statement : Statement) (link : CursorLink) :
    let r := serve.run (statement, link)
    ∃ opens, r.2.2.wire =
        (link.wire.called "cursor.execute"
          (Adapter.arguments statement.sql statement.params)).served opens r.1.isOk
            statement.sql ∧
      (∀ f, opens = true → r.1 = .error f →
        ∃ o ∈ link.script, ∃ fault, o.fault = some fault ∧ f = .driver fault) ∧
      ∀ o ∈ r.2.2.script, o ∈ link.script := by
  obtain ⟨statement', _, hserve⟩ := run_serve statement link
  rw [hserve]
  exact run_runOnCursor statement link

end CursorLink

namespace BufferedOutcome

/-- The rows that are read of a result, once the identifier of the inserted row was told. -/
def result (o : BufferedOutcome) : Except Failure (List Row) :=
  match o.insertedIdText with
  | .ok _ => o.namedRows
  | .error f => .error f

/-- What a statement comes to: an error, or the rows that are read of its result. -/
def outcome (o : BufferedOutcome) : Except Failure (List Row) :=
  match o.fault with
  | some fault => .error (.driver fault)
  | none => o.result

end BufferedOutcome

namespace BufferedLink

theorem lawful_wirePart : wirePart.Lawful := ⟨fun _ _ => rfl, fun _ => rfl⟩

/-- A call to the driver changes nothing but the wire. -/
theorem run_call (name : String) (args : List Value) (link : BufferedLink) :
    (call name args).run link =
      (((Wire.call name args).run link.wire).1,
        { link with wire := link.wire.called name args }) := by
  rw [call, run_within]
  dsimp only [wirePart]
  rw [Wire.run_call]

/-- Once its call has passed, the driver takes what it does next from its script. -/
theorem run_perform_passed {statement : Statement} {link : BufferedLink}
    (h : ((Wire.call "raw.execute" (Adapter.arguments statement.sql statement.params)).run
      link.wire).1 = .ok ()) :
    (perform statement).run link =
      let outcome := link.script.headD .empty
      ((match outcome.fault with
        | some fault => .error (.driver fault)
        | none => .ok outcome), { link with
        script := link.script.drop 1
        wire := (link.wire.called "raw.execute"
          (Adapter.arguments statement.sql statement.params)).served outcome.opens
            outcome.fault.isNone statement.sql }) := by
  rw [perform, run_bind, run_call, h]
  dsimp only
  rw [run_bind, run_state]
  dsimp only
  rw [run_bind, run_update]
  dsimp only
  rw [run_bind, run_within, Wire.run_perform]
  cases (link.script.headD .empty).fault <;> rfl

/-- The driver serves a statement after one call. What it raises behind the call, and what it hands
over, the script says; and where it says nothing, the driver does not fail. -/
theorem run_perform (statement : Statement) (link : BufferedLink) :
    let driver := (perform statement).run link
    ∃ opens, driver.2.wire =
        (link.wire.called "raw.execute"
          (Adapter.arguments statement.sql statement.params)).served opens driver.1.isOk
            statement.sql ∧
      (∀ f, opens = true → driver.1 = .error f → ∃ o ∈ link.script, o.outcome = .error f) ∧
      (∀ o, driver.1 = .ok o → o.fault = none ∧ (o ∈ link.script ∨ o = .empty)) ∧
      ∀ o ∈ driver.2.script, o ∈ link.script := by
  dsimp only
  cases hcall : ((Wire.call "raw.execute"
    (Adapter.arguments statement.sql statement.params)).run link.wire).1 with
  | error f =>
    have hrun : (perform statement).run link = (.error f, { link with
        wire := link.wire.called "raw.execute"
          (Adapter.arguments statement.sql statement.params) }) := by
      rw [perform, run_bind, run_call, hcall]
    rw [hrun]
    refine ⟨false, rfl, nofun, ?_, fun _ ho => ho⟩
    rintro o ⟨⟩
  | ok _ =>
    rw [run_perform_passed hcall]
    dsimp only
    have hscript : ∀ o ∈ link.script.drop 1, o ∈ link.script := fun o ho => List.mem_of_mem_drop ho
    have hhead := headD_mem_or_eq link.script .empty
    cases hfault : (link.script.headD .empty).fault with
    | none =>
      refine ⟨_, rfl, nofun, ?_, hscript⟩
      rintro o ⟨⟩
      exact ⟨hfault, hhead⟩
    | some fault =>
      refine ⟨_, rfl, ?_, ?_, hscript⟩
      · rintro f _ ⟨⟩
        rcases hhead with ho | ho
        · exact ⟨_, ho, by rw [BufferedOutcome.outcome, hfault]⟩
        · rw [ho] at hfault
          cases hfault
      · rintro o ⟨⟩

/-- The statement after its result was kept as far as it could be read. -/
def Statement.kept (statement : Statement) (outcome : BufferedOutcome) : Statement :=
  match outcome.result with
  | .ok rows =>
    { statement with rows := some rows, position := 0, rowCount := outcome.rowCount }
  | .error _ => { statement with rowCount := outcome.rowCount }

/-- Keeping a result sends nothing to the driver. -/
theorem run_keep (outcome : BufferedOutcome) (statement : Statement) (link : BufferedLink) :
    ∃ insertId, (keep outcome).run (statement, link) =
      (outcome.result, statement.kept outcome, { link with insertId }) := by
  unfold keep Statement.kept BufferedOutcome.result
  rw [run_bind, run_update]
  dsimp only
  rw [run_bind, run_ofExcept]
  cases outcome.insertedIdText with
  | error f => exact ⟨link.insertId, rfl⟩
  | ok insertId =>
    refine ⟨insertId, ?_⟩
    dsimp only
    rw [run_bind, run_update]
    dsimp only
    rw [run_bind, run_ofExcept]
    cases outcome.namedRows <;> rfl

/-- Serving a statement that the driver refuses leaves it as it is. -/
theorem run_serve_error {statement : Statement} {link link' : BufferedLink} {f : Failure}
    (h : (perform statement).run link = (.error f, link')) :
    serve.run (statement, link) = (.error f, statement, link') := by
  rw [serve, run_bind, run_state]
  dsimp only
  rw [run_bind, run_within]
  dsimp only [Part.second]
  rw [h]

/-- Serving a statement that the driver runs comes to its result, which is kept. -/
theorem run_serve_ok {statement : Statement} {link link' : BufferedLink} {outcome : BufferedOutcome}
    (h : (perform statement).run link = (.ok outcome, link')) :
    ∃ insertId, serve.run (statement, link) =
      (outcome.result, statement.kept outcome, { link' with insertId }) := by
  rw [serve, run_bind, run_state]
  dsimp only
  rw [run_bind, run_within]
  dsimp only [Part.second]
  rw [h]
  exact run_keep outcome statement link'

/-- The rows that are handed over are those of what the driver came to. -/
theorem exists_outcome_of_serve {s : Statement} {link : BufferedLink} {rows : List Row}
    (h : (serve.run (s, link)).1 = .ok rows) :
    ∃ outcome, ((perform s).run link).1 = .ok outcome ∧ outcome.namedRows = .ok rows := by
  rcases hdriver : (perform s).run link with ⟨outcome, link'⟩
  cases outcome with
  | error f =>
    rw [run_serve_error hdriver] at h
    cases h
  | ok outcome =>
    obtain ⟨insertId, hserve⟩ := run_serve_ok hdriver
    rw [hserve] at h
    refine ⟨outcome, rfl, ?_⟩
    unfold BufferedOutcome.result at h
    split at h
    · exact h
    · cases h

/-- A statement is served with one call. Where a transaction is opened for it and it fails, the
script says so. -/
theorem wire_serve (statement : Statement) (link : BufferedLink) :
    let r := serve.run (statement, link)
    ∃ opens, r.2.2.wire =
        (link.wire.called "raw.execute"
          (Adapter.arguments statement.sql statement.params)).served opens
            ((perform statement).run link).1.isOk statement.sql ∧
      (∀ f, opens = true → r.1 = .error f → ∃ o ∈ link.script, o.outcome = .error f) ∧
      ∀ o ∈ r.2.2.script, o ∈ link.script := by
  obtain ⟨opens, hwire, hfault, hserved, hscript⟩ := run_perform statement link
  rcases hdriver : (perform statement).run link with ⟨outcome, link'⟩
  rw [hdriver] at hwire hfault hserved hscript
  cases outcome with
  | error f =>
    rw [run_serve_error hdriver]
    refine ⟨opens, hwire, ?_, hscript⟩
    rintro f hopens ⟨⟩
    exact hfault f hopens rfl
  | ok outcome =>
    obtain ⟨insertId, hserve⟩ := run_serve_ok hdriver
    obtain ⟨hnone, ho⟩ := hserved outcome rfl
    rw [hserve]
    refine ⟨opens, hwire, fun f _ hf => ?_, hscript⟩
    rcases ho with ho | rfl
    · refine ⟨outcome, ho, ?_⟩
      rw [BufferedOutcome.outcome, hnone]
      exact hf
    · cases hf

end BufferedLink

/-! ### Both adapters -/

/-- Running a statement leaves no transaction open that was not open before, unless the driver fails
with an error that is not its own; and it ends no transaction that was open before. -/
theorem Connection.execute_settles (statement : CursorLink.Statement) (link : CursorLink)
    (statement' : BufferedLink.Statement) (link' : BufferedLink) :
    ((link.wire.inTransaction = false →
        link.wire.Unplanned "raw.commit" ∧ link.wire.Unplanned "raw.rollback") →
      let driver := CursorLink.serve.run (statement, link)
      let r := CursorLink.execute.run (statement, link)
      link.wire.Settles
        ⟨"cursor.execute", Adapter.arguments statement.sql statement.params⟩ CursorLink.isOwnFault
        (driver.1, driver.2.2.wire) (r.1, r.2.2.wire)) ∧
    ((link'.wire.inTransaction = false →
        link'.wire.Unplanned "raw.commit" ∧ link'.wire.Unplanned "raw.rollback") →
      let driver := BufferedLink.serve.run (statement', link')
      let r := BufferedLink.execute.run (statement', link')
      link'.wire.Settles
        ⟨"raw.execute", Adapter.arguments statement'.sql statement'.params⟩ BufferedLink.isOwnFault
        (driver.1, driver.2.2.wire) (r.1, r.2.2.wire)) := by
  constructor
  · obtain ⟨opens, hwire, _⟩ := CursorLink.wire_serve statement link
    exact Adapter.settles_execute CursorLink.lawful_wirePart.ofSecond CursorLink.isOwnFault
      CursorLink.serve (statement, link) ⟨"cursor.execute", _⟩ ⟨opens, _, _, hwire⟩
  · obtain ⟨opens, hwire, _⟩ := BufferedLink.wire_serve statement' link'
    exact Adapter.settles_execute BufferedLink.lawful_wirePart.ofSecond BufferedLink.isOwnFault
      BufferedLink.serve (statement', link') ⟨"raw.execute", _⟩ ⟨opens, _, _, hwire⟩

/-- A statement for which both drivers open a transaction and then fail with an error of their own:
the transaction is rolled back, also where the second driver fails while the rows are read. -/
theorem Connection.execute_settles_failing :
    let wire : Wire := .fresh false []
    let fault : DriverFault := ⟨.engine, "UNIQUE"⟩
    let cursor : CursorLink :=
      ⟨wire, [⟨true, some ⟨.integrity, "UNIQUE"⟩, none, [], none, .int 0⟩], .null, false⟩
    let buffered : BufferedLink :=
      ⟨wire, [⟨true, some fault, .int 0, .unavailable, none, [], none⟩], false, false, "0", [],
        .null, false, []⟩
    let reading : BufferedLink := { buffered with
      script := [⟨true, none, .int 1, .known (.int 7), some [.text "id"], [], some fault⟩] }
    (wire.Unplanned "raw.commit" ∧ wire.Unplanned "raw.rollback") ∧
      (CursorLink.execute.run (⟨"DELETE FROM t", [], .fresh⟩, cursor)).2.2.wire.inTransaction =
        false ∧
      (BufferedLink.execute.run (.fresh "DELETE FROM t", buffered)).2.2.wire.inTransaction =
        false ∧
      (BufferedLink.execute.run (.fresh "DELETE FROM t", reading)).2.2.wire.inTransaction =
        false := by
  intro wire fault cursor buffered reading
  have hwire : wire.Unplanned "raw.commit" ∧ wire.Unplanned "raw.rollback" := ⟨nofun, nofun⟩
  have hsettles := execute_settles ⟨"DELETE FROM t", [], .fresh⟩ cursor (.fresh "DELETE FROM t")
  have hcursor := (hsettles buffered).1 fun _ => hwire
  have hbuffered := (hsettles buffered).2 fun _ => hwire
  have hreading := (hsettles reading).2 fun _ => hwire
  refine ⟨hwire, Bool.eq_false_iff.mpr fun hopen => ?_, Bool.eq_false_iff.mpr fun hopen => ?_,
    Bool.eq_false_iff.mpr fun hopen => ?_⟩
  · obtain ⟨_, f, hf, hown⟩ := (hcursor.alone rfl).mp hopen
    cases hf
    cases hown
  · obtain ⟨_, f, hf, hown⟩ := (hbuffered.alone rfl).mp hopen
    cases hf
    cases hown
  · obtain ⟨_, f, hf, hown⟩ := (hreading.alone rfl).mp hopen
    cases hf
    cases hown

/-- A statement for which both drivers open a transaction and then fail with an error that is not
their own: nothing is sent after the call, and the transaction stays open. -/
theorem Connection.execute_leaves_open :
    let wire : Wire := .fresh false []
    let fault : DriverFault := ⟨.foreign, "int too large to convert"⟩
    let cursor : CursorLink :=
      ⟨wire, [⟨true, some fault, none, [], none, .int (-1)⟩], .null, false⟩
    let buffered : BufferedLink :=
      ⟨wire, [⟨true, some fault, .int (-1), .unavailable, none, [], none⟩], false, false, "0", [],
        .null, false, []⟩
    let r := CursorLink.execute.run (⟨"INSERT INTO t (a) VALUES (1)", [], .fresh⟩, cursor)
    let r' := BufferedLink.execute.run (.fresh "INSERT INTO t (a) VALUES (1)", buffered)
    wire.inTransaction = false ∧ wire.Unplanned "raw.commit" ∧ wire.Unplanned "raw.rollback" ∧
      r.1 = .error (.driver fault) ∧ r.2.2.wire.inTransaction = true ∧
      r.2.2.wire.calls.map WireCall.name = ["cursor.execute"] ∧
      r'.1 = .error (.driver fault) ∧ r'.2.2.wire.inTransaction = true ∧
      r'.2.2.wire.calls.map WireCall.name = ["raw.execute"] := by
  intro wire fault cursor buffered r r'
  exact ⟨rfl, nofun, nofun, rfl, rfl, rfl, rfl, rfl, rfl⟩

end BoundSql
