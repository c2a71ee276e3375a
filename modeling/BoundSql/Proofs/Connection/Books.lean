import BoundSql.Proofs.Attempt.Keeps
import BoundSql.Proofs.Connection.Execute

/-!
# The books of a database

The books say whether a transaction is open, what waits for its end and what lasts. An adapter is
reliable when no end of a transaction raises and the driver fails with errors of its own only. Each
call on a reliable adapter changes the books as it says, or fails and leaves them as they are.
-/

namespace BoundSql

open Attempt

/-- What is known of a database: whether a transaction is open, and the statements that ran. -/
structure Books where
  /-- Whether a transaction is open. -/
  isOpen : Bool
  /-- What waits and what lasts. -/
  ledger : Ledger
  deriving DecidableEq, Repr

namespace Books

/-- Outside a transaction nothing waits. -/
def Settled (k : Books) : Prop := k.isOpen = false → k.ledger.pending = []

/-- A statement took effect. -/
def ran (sql : String) (k : Books) : Books :=
  if k.isOpen then { k with ledger := { k.ledger with pending := k.ledger.pending ++ [sql] } }
  else { k with ledger := { k.ledger with committed := k.ledger.committed ++ [sql] } }

/-- Statements took effect, one after another. -/
def ranAll (sqls : List String) (k : Books) : Books := sqls.foldl (fun k sql => k.ran sql) k

/-- A transaction was begun. -/
def begun (k : Books) : Books := { k with isOpen := true }

/-- The transaction was committed. -/
def committed (k : Books) : Books := ⟨false, [], k.ledger.committed ++ k.ledger.pending⟩

/-- The transaction was rolled back. -/
def rolledBack (k : Books) : Books := ⟨false, [], k.ledger.committed⟩

/-- A statement that ran opens nothing in the books. -/
theorem isOpen_ran (sql : String) (k : Books) : (k.ran sql).isOpen = k.isOpen := by
  unfold ran
  split <;> rfl

/-- Where nothing waits outside of transactions, nothing does after a statement. -/
theorem Settled.ran {k : Books} (h : k.Settled) (sql : String) : (k.ran sql).Settled := by
  intro hopen
  rw [isOpen_ran] at hopen
  simp only [Books.ran, hopen, Bool.false_eq_true, if_false]
  exact h hopen

theorem Settled.ranAll {k : Books} (h : k.Settled) (sqls : List String) :
    (k.ranAll sqls).Settled := by
  induction sqls generalizing k with
  | nil => exact h
  | cons sql rest ih => exact ih (h.ran sql)

end Books

namespace Wire

/-- The books that a wire keeps. -/
def books (w : Wire) : Books := ⟨w.inTransaction, w.ledger⟩

variable {α : Type} {w : Wire}

/-- A statement that succeeds is entered into the books, whether or not the driver opens a
transaction for it. -/
theorem books_settled_ok (h : w.books.Settled) (own : Failure → Bool) (name sql : String)
    (args : List Value) (opens : Bool) (a : α) :
    (((w.called name args).served opens true sql).settled own w.inTransaction (.ok a)).books =
      w.books.ran sql := by
  cases hopen : w.inTransaction with
  | true => cases opens <;> simp [settled, served, called, opened, ran, books, Books.ran, hopen]
  | false =>
    have hpending : w.ledger.pending = [] := h hopen
    cases opens <;>
      simp [settled, served, called, opened, ran, committed, books, Books.ran, hopen, hpending]

/-- A statement that fails leaves the books as they are, if it took no effect and the adapter ends
what the driver opened. -/
theorem books_settled_error (h : w.books.Settled) {own : Failure → Bool} (name sql : String)
    (args : List Value) {opens : Bool} {f : Failure} (hown : opens = true → own f = true) :
    (((w.called name args).served opens false sql).settled own w.inTransaction
      (.error f : Except Failure α)).books = w.books := by
  cases hopen : w.inTransaction with
  | true => cases opens <;> simp [settled, served, called, opened, books, hopen]
  | false =>
    have hpending : w.ledger.pending = [] := h hopen
    cases opens with
    | false => simp [settled, served, called, books, hopen]
    | true =>
      simp [settled, served, called, opened, rolledBack, books, hopen, hown rfl, ← hpending]

/-- A statement that takes effect exactly if it succeeds is entered into the books if it does, and
leaves them as they are if it fails. -/
theorem books_settled (h : w.books.Settled) {own : Failure → Bool} (name sql : String)
    (args : List Value) {opens : Bool} {result : Except Failure α}
    (hown : ∀ f, opens = true → result = .error f → own f = true) :
    (((w.called name args).served opens result.isOk sql).settled own w.inTransaction result).books =
      if result.isOk then w.books.ran sql else w.books := by
  cases result with
  | ok a => exact books_settled_ok h own name sql args opens a
  | error f => exact books_settled_error h name sql args fun hopens => hown f hopens rfl

end Wire

/-- Where the books of an adapter are found, what its prepared statements run, and when it is
reliable. -/
class Accounts (L : Type) [Connection L] where
  /-- The far end. -/
  wire : Part L Wire
  /-- It is a part of its own. -/
  lawful : wire.Lawful
  /-- The text of a prepared statement. -/
  text : Connection.Statement L → String
  /-- No end of a transaction raises, and the driver fails with its own errors only. -/
  Reliable : L → Prop
  /-- What arrives at the far end does not change that, as long as the same errors are planned. -/
  reliable_put : ∀ l w, Reliable l → w.plan = (wire.get l).plan → Reliable (wire.put w l)

/-- A reliable adapter with these books. -/
def Books.Of {L : Type} [Connection L] [Accounts L] (k : Books) (l : L) : Prop :=
  Accounts.Reliable l ∧ (Accounts.wire.get l).books = k

namespace Books

variable {L : Type} [Connection L] [Accounts L] {k : Books} {l : L}

/-- The books follow the far end, as long as the same errors are planned. -/
theorem of_put (h : Accounts.Reliable l) {w : Wire} (hplan : w.plan = (Accounts.wire.get l).plan) :
    w.books.Of (Accounts.wire.put w l) :=
  ⟨Accounts.reliable_put l w h hplan, by rw [Accounts.lawful.get_put]⟩

/-- A call to the driver leaves the books as they are. -/
theorem keeps_call (name : String) (args : List Value) :
    Keeps (k.Of (L := L)) ((Wire.call name args).within Accounts.wire) := by
  intro l h
  rw [run_within, Wire.run_call, ← h.2]
  exact of_put h.1 rfl

/-- A call that changes the far end changes the books, where no error is planned for it. -/
theorem Of.exists_run_signal (h : k.Of l) {name : String}
    (hname : (Accounts.wire.get l).Unplanned name) {effect : Wire → Wire} {change : Books → Books}
    (hplan : ∀ w, (effect w).plan = w.plan) (hbooks : ∀ w, (effect w).books = change w.books) :
    ∃ l', ((Wire.signal name effect).within Accounts.wire).run l = (.ok (), l') ∧
      (change k).Of l' := by
  rw [run_within, Wire.run_signal_unplanned _ hname]
  refine ⟨_, rfl, ?_⟩
  have hafter := of_put h.1 (hplan ((Accounts.wire.get l).called name []))
  rwa [hbooks, show ((Accounts.wire.get l).called name []).books = k from h.2] at hafter

/-- An adapter enters a statement into the books if it succeeds, and leaves them as they are if it
fails, where it takes effect exactly if it succeeds and fails with the driver's own errors only. -/
theorem Of.execute {S α : Type} {own : Failure → Bool} {serve : Attempt (S × L) α} {s : S × L}
    (h : k.Of s.2) (hk : k.Settled) (hreliable : Accounts.Reliable (serve.run s).2.2)
    (hends : (Accounts.wire.get s.2).Unplanned "raw.commit" ∧
      (Accounts.wire.get s.2).Unplanned "raw.rollback")
    {name sql : String} {args : List Value} {opens : Bool}
    (hwire : Accounts.wire.get (serve.run s).2.2 =
      ((Accounts.wire.get s.2).called name args).served opens (serve.run s).1.isOk sql)
    (hown : ∀ f, opens = true → (serve.run s).1 = .error f → own f = true) :
    let r := (Adapter.execute Accounts.wire.ofSecond own serve).run s
    (if r.1.isOk then k.ran sql else k).Of r.2.2 := by
  have hlawful : (Accounts.wire (L := L)).Lawful := Accounts.lawful
  rcases hserve : serve.run s with ⟨outcome, t⟩
  rw [hserve] at hreliable hwire hown
  have hunplanned : ∀ name, (Accounts.wire.get s.2).Unplanned name →
      (Accounts.wire.get t.2).Unplanned name := by
    intro name hname p hp
    rw [hwire, Wire.plan_served] at hp
    exact hname p hp
  rw [Adapter.run_execute hlawful.ofSecond hserve fun _ => hends.imp (hunplanned _) (hunplanned _)]
  have hbooks := Wire.books_settled (w := Accounts.wire.get s.2) (h.2 ▸ hk) name sql args hown
  rw [← hwire, h.2] at hbooks
  have hof : (if outcome.isOk then k.ran sql else k).Of (Accounts.wire.put
      ((Accounts.wire.get t.2).settled own (Accounts.wire.get s.2).inTransaction outcome) t.2) := by
    rw [← hbooks]
    exact of_put hreliable (Wire.plan_settled ..)
  cases outcome <;> exact hof

/-- Where no transaction is open one can be begun. -/
theorem Of.exists_run_begin (h : k.Of l) (hclosed : k.isOpen = false) (nested : DriverFault) :
    ∃ l', (Adapter.begin Accounts.wire nested).run l = (.ok (), l') ∧ k.begun.Of l' := by
  have hwire : (Accounts.wire.get l).inTransaction = false := by rw [← hclosed, ← h.2]; rfl
  rw [Adapter.begin, run_bind, run_state]
  dsimp only
  rw [hwire, ← h.2]
  exact ⟨_, rfl, of_put h.1 rfl⟩

end Books

/-- A connection whose calls change the books as they say, and leave them as they are when they
fail. -/
class Bookkeeper (L : Type) [Connection L] extends Accounts L where
  inTransaction : ∀ l : L, Connection.inTransaction l = (wire.get l).inTransaction
  prepare : ∀ (k : Books) sql, Keeps (k.Of (L := L)) (Connection.prepare sql)
  prepared : ∀ sql (l l' : L) statement,
    (Connection.prepare sql).run l = (.ok statement, l') → text statement = sql
  bind : ∀ (k : Books) sql name value,
    Keeps (fun s : Connection.Statement L × L => text s.1 = sql ∧ k.Of s.2)
      (Connection.bind name value)
  execute : ∀ (k : Books) (s s' : Connection.Statement L × L) outcome, k.Settled → k.Of s.2 →
    Connection.execute.run s = (outcome, s') →
      (if outcome.isOk then k.ran (text s.1) else k).Of s'.2
  fetch : ∀ k : Books, Keeps (fun s : Connection.Statement L × L => k.Of s.2) Connection.fetch
  fetchAll : ∀ k : Books, Keeps (fun s : Connection.Statement L × L => k.Of s.2) Connection.fetchAll
  rowCount : ∀ k : Books, Keeps (fun s : Connection.Statement L × L => k.Of s.2) Connection.rowCount
  lastInsertId : ∀ k : Books, Keeps (k.Of (L := L)) Connection.lastInsertId
  close : ∀ (k : Books) (l : L), k.Of l → k.Of (Connection.close l)
  begin : ∀ (k : Books) (l l' : L) outcome, k.isOpen = false → k.Of l →
    Connection.begin.run l = (outcome, l') → (if outcome.isOk then k.begun else k).Of l'
  commit : ∀ (k : Books) (l : L), k.Of l →
    ∃ l', Connection.commit.run l = (.ok (), l') ∧ k.committed.Of l'
  rollback : ∀ (k : Books) (l : L), k.Of l →
    ∃ l', Connection.rollback.run l = (.ok (), l') ∧ k.rolledBack.Of l'

namespace CursorLink

/-- No end of a transaction raises, and the driver fails with its own errors only. -/
structure Reliable (link : CursorLink) : Prop where
  commits : link.wire.Unplanned "raw.commit"
  rollsBack : link.wire.Unplanned "raw.rollback"
  own : ∀ o ∈ link.script, ∀ fault, o.fault = some fault → fault.kind.ofCursorDriver = true

/-- An adapter stays reliable while the same errors are planned and nothing is added to the
script. -/
theorem Reliable.of_plan {link link' : CursorLink} (h : link.Reliable)
    (hplan : link'.wire.plan = link.wire.plan) (hscript : ∀ o ∈ link'.script, o ∈ link.script) :
    link'.Reliable :=
  ⟨fun p hp => h.commits p (hplan ▸ hp), fun p hp => h.rollsBack p (hplan ▸ hp),
    fun o ho => h.own o (hscript o ho)⟩

instance : Accounts CursorLink where
  wire := wirePart
  lawful := lawful_wirePart
  text := Statement.sql
  Reliable := Reliable
  reliable_put _ _ h hplan := h.of_plan hplan fun _ ho => ho

variable {k : Books}

/-- Asking for an open connection changes no books. -/
theorem keeps_requireOpen : Keeps (k.Of (L := CursorLink)) requireOpen := by
  refine Keeps.bind .state fun link => ?_
  split
  · exact .fail _
  · exact .pure _

/-- A call beside a statement leaves the books as they are. -/
theorem keeps_call_within (name : String) (args : List Value) :
    Keeps (fun s : Statement × CursorLink => k.Of s.2) ((call name args).within .second) :=
  fun s h => Books.keeps_call name args s.2 h

/-- Preparing a statement changes no books. -/
theorem keeps_prepare (sql : String) : Keeps (k.Of (L := CursorLink)) (prepare sql) := by
  have hcursor : Keeps (k.Of (L := CursorLink)) (call "cursor" [] >>= fun _ => requireOpen) :=
    (Books.keeps_call "cursor" []).bind fun _ => keeps_requireOpen
  intro link h
  have hlink := hcursor link h
  unfold prepare
  dsimp only [Attempt.run] at hlink ⊢
  split
  · rename_i hrun
    rwa [hrun] at hlink
  · rename_i hrun
    rw [hrun] at hlink
    split <;> exact hlink
  · rename_i hrun
    rwa [hrun] at hlink

/-- A prepared statement runs the text that it was prepared for. -/
theorem sql_of_prepare {sql : String} {link link' : CursorLink} {statement : Statement}
    (h : (prepare sql).run link = (.ok statement, link')) : statement.sql = sql := by
  unfold prepare at h
  dsimp only [Attempt.run] at h
  split at h
  · cases h
    rfl
  · split at h <;> cases h
  · cases h

/-- A statement is entered into the books if it succeeds. -/
theorem of_run_execute (statement : Statement) {link : CursorLink} (hk : k.Settled)
    (h : k.Of link) :
    let r := execute.run (statement, link)
    (if r.1.isOk then k.ran statement.sql else k).Of r.2.2 := by
  obtain ⟨opens, hwire, hfault, hscript⟩ := wire_serve statement link
  have hreliable : link.Reliable := h.1
  have hplan : (serve.run (statement, link)).2.2.wire.plan = link.wire.plan := by
    rw [hwire, Wire.plan_served]
    rfl
  have hown : ∀ f, opens = true → (serve.run (statement, link)).1 = .error f →
      isOwnFault f = true := by
    intro f hopens hf
    obtain ⟨o, ho, fault, hraised, rfl⟩ := hfault f hopens hf
    exact hreliable.own o ho fault hraised
  exact Books.Of.execute (s := (statement, link)) h hk (hreliable.of_plan hplan hscript)
    ⟨hreliable.commits, hreliable.rollsBack⟩ hwire hown

/-- A transaction can be begun where none is open, if the call passes. -/
theorem of_run_begin {link link' : CursorLink} {outcome : Except Failure Unit}
    (hk : k.isOpen = false) (h : k.Of link) (hrun : begin.run link = (outcome, link')) :
    (if outcome.isOk then k.begun else k).Of link' := by
  have hbefore : Keeps (k.Of (L := CursorLink))
      (call "raw.execute" [.text "BEGIN"] >>= fun _ => requireOpen) :=
    (Books.keeps_call _ _).bind fun _ => keeps_requireOpen
  have hlink := hbefore link h
  have hbegin : begin.run link =
      ((call "raw.execute" [.text "BEGIN"] >>= fun _ => requireOpen) >>= fun _ =>
        Adapter.begin wirePart nestedFault).run link := by
    rw [begin, bind_assoc]
  rw [hbegin, run_bind] at hrun
  rcases hfirst : (call "raw.execute" [.text "BEGIN"] >>= fun _ => requireOpen).run link with
    ⟨first, l⟩
  rw [hfirst] at hlink hrun
  cases first with
  | error f =>
    cases hrun
    exact hlink
  | ok _ =>
    obtain ⟨l', hopened, hof⟩ := hlink.exists_run_begin hk nestedFault
    cases hopened.symm.trans hrun
    exact hof

instance : Bookkeeper CursorLink where
  inTransaction _ := rfl
  prepare _ sql := keeps_prepare sql
  prepared _ _ _ _ h := sql_of_prepare h
  bind _ _ _ _ := .update fun _ h => h
  execute _ s _ _ hk h hrun := by
    have hof := of_run_execute s.1 hk h
    rw [show execute.run (s.1, s.2) = _ from hrun] at hof
    exact hof
  fetch _ := (keeps_call_within _ _).bind fun _ => Keeps.bind .state fun _ =>
    Keeps.bind (.update fun _ h => h) fun _ => .pure _
  fetchAll _ := (keeps_call_within _ _).bind fun _ => Keeps.bind .state fun _ =>
    Keeps.bind (.update fun _ h => h) fun _ => .pure _
  rowCount _ := Keeps.bind .state fun _ => .pure _
  lastInsertId _ := (Books.keeps_call _ _).bind fun _ => keeps_requireOpen.bind fun _ =>
    (Books.keeps_call _ _).bind fun _ => Keeps.bind .state fun _ =>
      (Keeps.ofExcept _).bind fun _ => .pure _
  close _ _ h := ⟨⟨h.1.commits, h.1.rollsBack, h.1.own⟩, h.2⟩
  begin _ _ _ _ hk h hrun := of_run_begin hk h hrun
  commit _ _ h := h.exists_run_signal h.1.commits (fun _ => rfl) fun _ => rfl
  rollback _ _ h := h.exists_run_signal h.1.rollsBack (fun _ => rfl) fun _ => rfl

end CursorLink

namespace BufferedLink

/-- No end of a transaction raises, held or not, and the driver fails with its own errors only, also
while it hands over a result. -/
structure Orderly (link : BufferedLink) : Prop where
  commits : ∀ name ∈ ["raw.commit", "tx.commit"], link.wire.Unplanned name
  rollsBack : ∀ name ∈ ["raw.rollback", "tx.rollback"], link.wire.Unplanned name
  own : ∀ o ∈ link.script, ∀ f, o.outcome = .error f → isOwnFault f = true

/-- The driver hands over the result of every statement that it runs. -/
def Whole (link : BufferedLink) : Prop :=
  ∀ o ∈ link.script, o.fault = none → o.result.isOk = true

/-- Such an adapter fails only where the driver did not run the statement. -/
structure Reliable (link : BufferedLink) : Prop extends link.Orderly where
  whole : link.Whole

/-- An adapter stays orderly while the same errors are planned and nothing is added to the
script. -/
theorem Orderly.of_plan {link link' : BufferedLink} (h : link.Orderly)
    (hplan : link'.wire.plan = link.wire.plan) (hscript : ∀ o ∈ link'.script, o ∈ link.script) :
    link'.Orderly :=
  ⟨fun name hm p hp => h.commits name hm p (hplan ▸ hp),
    fun name hm p hp => h.rollsBack name hm p (hplan ▸ hp), fun o ho => h.own o (hscript o ho)⟩

/-- So does a reliable one. -/
theorem Reliable.of_plan {link link' : BufferedLink} (h : link.Reliable)
    (hplan : link'.wire.plan = link.wire.plan) (hscript : ∀ o ∈ link'.script, o ∈ link.script) :
    link'.Reliable :=
  ⟨h.toOrderly.of_plan hplan hscript, fun o ho => h.whole o (hscript o ho)⟩

instance : Accounts BufferedLink where
  wire := wirePart
  lawful := lawful_wirePart
  text := Statement.sql
  Reliable := Reliable
  reliable_put _ _ h hplan := h.of_plan hplan fun _ ho => ho

variable {k : Books}

/-- Preparing a statement changes no books. -/
theorem keeps_prepare (sql : String) : Keeps (k.Of (L := BufferedLink)) (prepare sql) := by
  refine Keeps.bind .state fun link => ?_
  split
  · exact .fail _
  · exact .pure _

/-- A prepared statement runs the text that it was prepared for. -/
theorem sql_of_prepare {sql : String} {link link' : BufferedLink} {statement : Statement}
    (h : (prepare sql).run link = (.ok statement, link')) : statement.sql = sql := by
  unfold prepare at h
  rw [run_bind, run_state] at h
  dsimp only at h
  split at h
  · cases h
  · cases h
    rfl

/-- Where results are handed over a statement comes to its rows if the driver runs it. -/
theorem Whole.isOk_serve {link : BufferedLink} (h : link.Whole) (statement : Statement) :
    (serve.run (statement, link)).1.isOk = ((perform statement).run link).1.isOk := by
  obtain ⟨_, _, _, hserved, _⟩ := run_perform statement link
  rcases hdriver : (perform statement).run link with ⟨outcome, link'⟩
  cases outcome with
  | error f =>
    rw [run_serve_error hdriver]
    rfl
  | ok outcome =>
    rw [hdriver] at hserved
    obtain ⟨insertId, hserve⟩ := run_serve_ok hdriver
    obtain ⟨hfault, ho | rfl⟩ := hserved outcome rfl
    · rw [hserve]
      exact h outcome ho hfault
    · rw [hserve]
      rfl

/-- A statement is entered into the books if it succeeds. -/
theorem of_run_execute (statement : Statement) {link : BufferedLink} (hk : k.Settled)
    (h : k.Of link) :
    let r := execute.run (statement, link)
    (if r.1.isOk then k.ran statement.sql else k).Of r.2.2 := by
  obtain ⟨opens, hwire, hfault, hscript⟩ := wire_serve statement link
  have hreliable : link.Reliable := h.1
  have hplan : (serve.run (statement, link)).2.2.wire.plan = link.wire.plan := by
    rw [hwire, Wire.plan_served]
    rfl
  have hown : ∀ f, opens = true → (serve.run (statement, link)).1 = .error f →
      isOwnFault f = true := by
    intro f hopens hf
    obtain ⟨o, ho, hraised⟩ := hfault f hopens hf
    exact hreliable.own o ho f hraised
  rw [← hreliable.whole.isOk_serve] at hwire
  exact Books.Of.execute (s := (statement, link)) h hk (hreliable.of_plan hplan hscript)
    ⟨hreliable.commits _ (by simp), hreliable.rollsBack _ (by simp)⟩ hwire hown

/-- A transaction can be begun where none is open, if the call passes. -/
theorem of_run_begin {link link' : BufferedLink} {outcome : Except Failure Unit}
    (hk : k.isOpen = false) (h : k.Of link) (hrun : begin.run link = (outcome, link')) :
    (if outcome.isOk then k.begun else k).Of link' := by
  have hlink := Books.keeps_call (k := k) "raw.begin" [] link h
  rw [begin, run_bind] at hrun
  rcases hfirst : (call "raw.begin" []).run link with ⟨first, l⟩
  rw [show (within Accounts.wire (Wire.call "raw.begin" [])).run link = _ from hfirst] at hlink
  rw [hfirst] at hrun
  cases first with
  | error f =>
    cases hrun
    exact hlink
  | ok _ =>
    obtain ⟨l', hopened, hof⟩ := hlink.exists_run_begin hk nestedFault
    dsimp only at hrun
    rw [run_bind, show (Adapter.begin wirePart nestedFault).run l = _ from hopened] at hrun
    cases hrun
    exact ⟨hof.1.of_plan rfl fun _ ho => ho, hof.2⟩

/-- The end of a transaction, held or not. -/
theorem run_finish {held own : String} {effect : Wire → Wire} {change : Books → Books}
    {link : BufferedLink} (h : k.Of link) (hends : ∀ name ∈ [own, held], link.wire.Unplanned name)
    (hplan : ∀ w, (effect w).plan = w.plan) (hbooks : ∀ w, (effect w).books = change w.books) :
    ∃ link', (finish held own effect).run link = (.ok (), link') ∧ (change k).Of link' := by
  have hgiven : k.Of ({ link with holdsTransaction := false } : BufferedLink) :=
    ⟨h.1.of_plan rfl fun _ ho => ho, h.2⟩
  rw [finish, run_bind, run_state]
  dsimp only
  split
  · exact hgiven.exists_run_signal (hends held (by simp)) hplan hbooks
  · exact hgiven.exists_run_signal (hends own (by simp)) hplan hbooks

/-- Reading a kept result does not touch the driver. -/
theorem keeps_within_statement {α : Type} (act : Attempt Statement α) :
    Keeps (fun s : Statement × BufferedLink => k.Of s.2) (act.within statementPart) :=
  .within_other (fun _ _ h => h) act

instance : Bookkeeper BufferedLink where
  inTransaction _ := rfl
  prepare _ sql := keeps_prepare sql
  prepared _ _ _ _ h := sql_of_prepare h
  bind _ _ _ _ := .update fun _ h => h
  execute _ s _ _ hk h hrun := by
    have hof := of_run_execute s.1 hk h
    rw [show execute.run (s.1, s.2) = _ from hrun] at hof
    exact hof
  fetch _ := keeps_within_statement _
  fetchAll _ := keeps_within_statement _
  rowCount _ := keeps_within_statement _
  lastInsertId _ := Keeps.bind .state fun _ => .pure _
  close _ _ h := ⟨h.1.of_plan rfl fun _ ho => ho, h.2⟩
  begin _ _ _ _ hk h hrun := of_run_begin hk h hrun
  commit _ _ h := run_finish h h.1.commits (fun _ => rfl) fun _ => rfl
  rollback _ _ h := run_finish h h.1.rollsBack (fun _ => rfl) fun _ => rfl

end BufferedLink

end BoundSql
