import BoundSql.Connection.Buffered
import BoundSql.Connection.Cursor
import BoundSql.Connection.Direct
import BoundSql.Proofs.Attempt.Part
import BoundSql.Proofs.Connection.Line
import BoundSql.Proofs.Connection.Wire

/-!
# How a transaction scope leaves the connection

A scope that finds a transaction open runs its body and nothing else. Any other scope begins a
transaction of its own and ends it. So no transaction is left open, unless the call that begins or
commits it fails and leaves it open: only a failure of the body is answered by a rollback. The
scopes behind such a failure join what it left.
-/

namespace BoundSql

open Attempt

variable {L σ α β : Type}

/-- A connection on which no transaction is open once a commit or a rollback has passed. -/
class Connection.Ends (L : Type) [Connection L] : Prop where
  /-- A commit that passes ends the transaction. -/
  commit : ∀ link link' : L, Connection.commit.run link = (.ok (), link') →
    Connection.inTransaction link' = false
  /-- A rollback that passes ends the transaction. -/
  rollback : ∀ link link' : L, Connection.rollback.run link = (.ok (), link') →
    Connection.inTransaction link' = false

/-- No transaction is open on a wire behind a call that ends it and passes. -/
theorem Wire.inTransaction_of_signal {wire : Part σ Wire} (hwire : wire.Lawful) {name : String}
    {effect : Wire → Wire} (heffect : ∀ w, (effect w).inTransaction = false) {s t : σ}
    (h : ((signal name effect).within wire).run s = (.ok (), t)) :
    (wire.get t).inTransaction = false := by
  obtain ⟨w, hrun, rfl⟩ := run_within_eq_ok h
  obtain ⟨_, mid, _, hchange⟩ := run_bind_eq_ok hrun
  cases hchange
  rw [hwire.get_put]
  exact heffect mid

instance : Connection.Ends Direct where
  commit _ _ := Wire.inTransaction_of_signal ⟨fun _ _ => rfl, fun _ => rfl⟩ fun _ => rfl
  rollback _ _ := Wire.inTransaction_of_signal ⟨fun _ _ => rfl, fun _ => rfl⟩ fun _ => rfl

instance : Connection.Ends CursorLink where
  commit _ _ := Wire.inTransaction_of_signal ⟨fun _ _ => rfl, fun _ => rfl⟩ fun _ => rfl
  rollback _ _ := Wire.inTransaction_of_signal ⟨fun _ _ => rfl, fun _ => rfl⟩ fun _ => rfl

/-- An end of a transaction that passes leaves none open. -/
theorem BufferedLink.inTransaction_of_finish {held own : String} {effect : Wire → Wire}
    (heffect : ∀ w, (effect w).inTransaction = false) {link link' : BufferedLink}
    (h : (finish held own effect).run link = (.ok (), link')) :
    link'.wire.inTransaction = false := by
  obtain ⟨_, _, _, h⟩ := run_bind_eq_ok h
  obtain ⟨_, _, _, h⟩ := run_bind_eq_ok h
  exact Wire.inTransaction_of_signal ⟨fun _ _ => rfl, fun _ => rfl⟩ heffect h

instance : Connection.Ends BufferedLink where
  commit _ _ := BufferedLink.inTransaction_of_finish fun _ => rfl
  rollback _ _ := BufferedLink.inTransaction_of_finish fun _ => rfl

variable [Connection L]

namespace Line

/-- A transaction is open on the connection of a line. -/
def Open (l : Line L) : Prop := ∃ link, l.link = some link ∧ Connection.inTransaction link = true

/-- A rollback passes on the connection of a line. -/
def RollsBack (l : Line L) : Prop :=
  ∀ link, l.link = some link → (Connection.rollback.run link).1 = .ok ()

/-- Begin the transaction of a scope. -/
def opening (absent : Failure) (line : Part σ (Line L)) : Attempt σ Unit :=
  (signal absent Connection.begin .transactionBegin).within line

/-- Commit the transaction of a scope. -/
def committing (absent : Failure) (line : Part σ (Line L)) : Attempt σ Unit :=
  (signal absent Connection.commit .transactionCommit).within line

/-- A scope with a transaction of its own: it begins one, runs the body and ends the transaction as
the body came out. -/
def alone (absent : Failure) (line : Part σ (Line L)) (body : Attempt σ α) : Attempt σ α := do
  opening absent line
  conclude absent line (← body.outcome)

/-- A scope joins the transaction that is open. -/
theorem run_transactional_open (absent : Failure) {line : Part σ (Line L)} (hline : line.Lawful)
    (body : Attempt σ α) {s : σ} (h : (line.get s).Open) :
    (transactional absent line body).run s = body.run s := by
  obtain ⟨link, hlink, hopen⟩ := h
  rw [transactional, run_bind, run_within, run_ask_inTransaction _ hlink, hopen, hline.put_get]
  rfl

/-- Where no transaction is open, a scope begins one of its own. -/
theorem run_transactional_alone (absent : Failure) {line : Part σ (Line L)} (hline : line.Lawful)
    (body : Attempt σ α) {s : σ} (h : ¬(line.get s).Open) :
    (transactional absent line body).run s = (alone absent line body).run s := by
  rw [transactional, run_bind, run_within]
  cases hlink : (line.get s).link with
  | none =>
    -- Without a connection both fail at their first call.
    rw [run_ask_absent _ _ hlink, alone, run_bind, opening, run_within,
      run_signal_absent _ _ _ hlink]
  | some link =>
    have hclosed : Connection.inTransaction link = false :=
      Bool.eq_false_iff.mpr fun hopen => h ⟨link, hlink, hopen⟩
    rw [run_ask_inTransaction _ hlink, hclosed, hline.put_get]
    rfl

/-- A call that ends transactions leaves none open where it passes. -/
theorem not_open_of_signal {act : Attempt L Unit}
    (hact : ∀ link link' : L, act.run link = (.ok (), link') →
      Connection.inTransaction link' = false)
    {absent : Failure} {e : LogEvent} {l l' : Line L}
    (h : (signal absent act e).run l = (.ok (), l')) : ¬l'.Open := by
  rintro ⟨link', hlink', hopen⟩
  cases hlink : l.link with
  | none =>
    rw [run_signal_absent _ _ _ hlink] at h
    cases h
  | some link =>
    rw [run_signal _ _ _ hlink] at h
    rcases hrun : act.run link with ⟨outcome, after⟩
    rw [hrun] at h
    cases h
    cases hlink'
    rw [hact link after hrun] at hopen
    cases hopen

/-- Where a rollback passes, no transaction is open behind it. -/
theorem RollsBack.not_open [Connection.Ends L] {l : Line L} (h : l.RollsBack) (absent : Failure)
    (e : LogEvent) : ¬((signal absent Connection.rollback e).run l).2.Open := by
  cases hlink : l.link with
  | none =>
    rw [run_signal_absent _ _ _ hlink]
    rintro ⟨link, hlink', _⟩
    rw [hlink] at hlink'
    cases hlink'
  | some link =>
    have hpasses : ((signal absent Connection.rollback e).run l).1 = .ok () := by
      rw [run_signal _ _ _ hlink]
      exact h link hlink
    exact not_open_of_signal Connection.Ends.rollback (Prod.ext hpasses rfl)

/-- The call that begins or commits the transaction of a scope fails and leaves it open. -/
inductive Leaves (absent : Failure) (line : Part σ (Line L)) (body : Attempt σ α) (s : σ) : Prop
  /-- The call that begins it. -/
  | begun {f : Failure} {t : σ} (hbegin : (opening absent line).run s = (.error f, t))
    (hopen : (line.get t).Open)
  /-- The call that commits it, behind a body that answered. -/
  | answered {a : α} {f : Failure} {t u v : σ} (hbegin : (opening absent line).run s = (.ok (), t))
    (hbody : body.run t = (.ok a, u)) (hcommit : (committing absent line).run u = (.error f, v))
    (hopen : (line.get v).Open)

/-- The end of a transaction leaves it open exactly if it is to be committed and the commit fails
and leaves it open. -/
theorem open_conclude_iff [Connection.Ends L] (absent : Failure) {line : Part σ (Line L)}
    (hline : line.Lawful) {outcome : Except Failure α} {u : σ}
    (hrollback : ∀ f, outcome = .error f → (line.get u).RollsBack) :
    (line.get ((conclude absent line outcome).run u).2).Open ↔
      ∃ a f v, outcome = .ok a ∧ (committing absent line).run u = (.error f, v) ∧
        (line.get v).Open := by
  cases outcome with
  | ok a =>
    have hconclude : conclude absent line (.ok a) = committing absent line >>= fun _ => pure a :=
      rfl
    rw [hconclude, run_bind]
    rcases hcommit : (committing absent line).run u with ⟨ended, v⟩
    cases ended with
    | ok _ =>
      obtain ⟨l, hsignal, rfl⟩ := run_within_eq_ok hcommit
      have hclosed : ¬l.Open := not_open_of_signal Connection.Ends.commit hsignal
      simp [hline.get_put, hclosed]
    | error f =>
      constructor
      · exact fun hopen => ⟨a, f, v, rfl, rfl, hopen⟩
      · rintro ⟨_, _, _, _, hcommit', hopen⟩
        cases hcommit'
        exact hopen
  | error f =>
    have hstate : ((conclude absent line (.error f : Except Failure α)).run u).2 =
        line.put ((signal absent Connection.rollback (.transactionRollback f)).run (line.get u)).2
          u := by
      rw [conclude, run_bind, run_within]
      cases ((signal absent Connection.rollback (.transactionRollback f)).run (line.get u)).1 <;>
        rfl
    have hclosed := (hrollback f rfl).not_open absent (.transactionRollback f)
    simp [hstate, hline.get_put, hclosed]

/-- A scope with a transaction of its own leaves one open exactly if the call that begins or commits
it fails and leaves it open. -/
theorem open_alone_iff [Connection.Ends L] (absent : Failure) {line : Part σ (Line L)}
    (hline : line.Lawful) (body : Attempt σ α) {s : σ}
    (hrollback : ∀ t f u, (opening absent line).run s = (.ok (), t) →
      body.run t = (.error f, u) → (line.get u).RollsBack) :
    (line.get ((alone absent line body).run s).2).Open ↔ Leaves absent line body s := by
  rw [alone, run_bind]
  rcases hbegin : (opening absent line).run s with ⟨begun, t⟩
  cases begun with
  | error f =>
    refine ⟨.begun hbegin, ?_⟩
    rintro (⟨hbegin', hopen⟩ | ⟨hbegin', _, _, _⟩) <;> rw [hbegin] at hbegin' <;> cases hbegin'
    exact hopen
  | ok _ =>
    dsimp only
    rw [run_bind, run_outcome]
    rcases hbody : body.run t with ⟨outcome, u⟩
    rw [open_conclude_iff absent hline fun f houtcome => hrollback t f u hbegin (houtcome ▸ hbody)]
    constructor
    · rintro ⟨a, f, v, rfl, hcommit, hopen⟩
      exact .answered hbegin hbody hcommit hopen
    · rintro (⟨hbegin', _⟩ | @⟨a, f, _, _, v, hbegin', hbody', hcommit, hopen⟩) <;>
        rw [hbegin] at hbegin' <;> cases hbegin'
      rw [hbody] at hbody'
      cases hbody'
      exact ⟨a, f, v, rfl, hcommit, hopen⟩

/-- A scope that finds no transaction open leaves none open, unless the call that begins or commits
its own fails and leaves it open. Every later scope has a transaction of its own in the first case,
and joins what was left in the second. -/
theorem transactional_open_iff [Connection.Ends L] (absent : Failure) {line : Part σ (Line L)}
    (hline : line.Lawful) (body : Attempt σ α) {s : σ} (hclosed : ¬(line.get s).Open)
    (hrollback : ∀ t f u, (opening absent line).run s = (.ok (), t) →
      body.run t = (.error f, u) → (line.get u).RollsBack) :
    let after := ((transactional absent line body).run s).2
    ((line.get after).Open ↔ Leaves absent line body s) ∧
      (¬Leaves absent line body s → ∀ {β : Type} (later : Attempt σ β),
        (transactional absent line later).run after = (alone absent line later).run after) ∧
      (Leaves absent line body s → ∀ {β : Type} (later : Attempt σ β),
        (transactional absent line later).run after = later.run after) := by
  intro after
  have hopen : (line.get after).Open ↔ Leaves absent line body s := by
    have hafter : after = ((alone absent line body).run s).2 :=
      congrArg Prod.snd (run_transactional_alone absent hline body hclosed)
    rw [hafter]
    exact open_alone_iff absent hline body hrollback
  refine ⟨hopen, fun hleaves β later => ?_, fun hleaves β later => ?_⟩
  · exact run_transactional_alone absent hline later (mt hopen.mp hleaves)
  · exact run_transactional_open absent hline later (hopen.mpr hleaves)

/-- A scope inside a scope fails: it joins the transaction, which the outer scope rolls back, and a
later scope begins and commits its own. -/
theorem transactional_open_iff_nested :
    let line : Part (Line CursorLink) (Line CursorLink) := ⟨id, fun l _ => l⟩
    let idle : Line CursorLink := ⟨some ⟨.fresh false [], [], .null, false⟩, []⟩
    let body : Attempt (Line CursorLink) Unit :=
      transactional .noConnection line (.fail .noStatement)
    let after := ((transactional .noConnection line body).run idle).2
    let later := ((transactional .noConnection line (pure ())).run after).2
    line.Lawful ∧ ¬(line.get idle).Open ∧
      (∀ t f u, (opening .noConnection line).run idle = (.ok (), t) →
        body.run t = (.error f, u) → (line.get u).RollsBack) ∧
      ¬(line.get after).Open ∧
      later.link.map (fun link => link.wire.calls.map WireCall.name) =
        some ["raw.execute", "raw.rollback", "raw.execute", "raw.commit"] := by
  intro line idle body after later
  have hline : line.Lawful := ⟨fun _ _ => rfl, fun _ => rfl⟩
  have hclosed : ¬(line.get idle).Open := by
    rintro ⟨link, hlink, hopen⟩
    cases hlink
    cases hopen
  have hrollback : ∀ t f u, (opening .noConnection line).run idle = (.ok (), t) →
      body.run t = (.error f, u) → (line.get u).RollsBack := by
    intro t f u hbegin hbody
    cases hbegin
    cases hbody
    rintro link hlink
    cases hlink
    rfl
  have hleaves : ¬Leaves .noConnection line body idle := by
    rintro (⟨hbegin, _⟩ | ⟨hbegin, hbody, _, _⟩)
    · cases hbegin
    · cases hbegin
      cases hbody
  obtain ⟨hopen, hlater, _⟩ :=
    transactional_open_iff .noConnection hline body hclosed hrollback
  refine ⟨hline, hclosed, hrollback, mt hopen.mp hleaves, ?_⟩
  have hown : later = ((alone .noConnection line (pure ())).run after).2 :=
    congrArg Prod.snd (hlater hleaves (pure ()))
  rw [hown]
  rfl

/-- The commit of a scope fails and leaves the transaction open: no rollback is sent, although it
would pass, and a later scope neither begins a transaction nor ends one. -/
theorem transactional_leaves_open :
    let cursors : Part (Line CursorLink) (Line CursorLink) := ⟨id, fun l _ => l⟩
    let buffers : Part (Line BufferedLink) (Line BufferedLink) := ⟨id, fun l _ => l⟩
    let busy : DriverFault := ⟨.operational, "database is locked"⟩
    let refused : DriverFault := ⟨.engine, "could not serialize access"⟩
    let cursor : Line CursorLink :=
      ⟨some ⟨.fresh false [⟨"raw.commit", [1], busy⟩], [], .null, false⟩, []⟩
    let buffered : Line BufferedLink :=
      ⟨some ⟨.fresh false [⟨"tx.commit", [1], refused⟩], [], false, false, "0", [], .null, false,
        []⟩, []⟩
    let r := (transactional .noConnection cursors (pure ())).run cursor
    let r' := (transactional .noConnection buffers (pure ())).run buffered
    let later := (transactional .noConnection cursors (pure ())).run r.2
    let later' := (transactional .noConnection buffers (pure ())).run r'.2
    ¬cursor.Open ∧ r.1 = .error (.driver busy) ∧ r.2.RollsBack ∧ r.2.Open ∧
      later.1 = .ok () ∧ later.2.Open ∧
      later.2.link.map (fun link => link.wire.calls.map WireCall.name) =
        some ["raw.execute", "raw.commit"] ∧
      ¬buffered.Open ∧ r'.1 = .error (.driver refused) ∧ r'.2.RollsBack ∧ r'.2.Open ∧
      later'.1 = .ok () ∧ later'.2.Open ∧
      later'.2.link.map (fun link => link.wire.calls.map WireCall.name) =
        some ["raw.begin", "tx.commit"] := by
  intro cursors buffers busy refused cursor buffered r r' later later'
  refine ⟨?_, rfl, ?_, ⟨_, rfl, rfl⟩, rfl, ⟨_, rfl, rfl⟩, rfl,
    ?_, rfl, ?_, ⟨_, rfl, rfl⟩, rfl, ⟨_, rfl, rfl⟩, rfl⟩
  · rintro ⟨link, hlink, hopen⟩
    cases hlink
    cases hopen
  · intro link hlink
    cases hlink
    rfl
  · rintro ⟨link, hlink, hopen⟩
    cases hlink
    cases hopen
  · intro link hlink
    cases hlink
    rfl

end Line

end BoundSql
