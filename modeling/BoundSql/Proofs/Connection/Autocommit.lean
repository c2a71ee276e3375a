import BoundSql.Proofs.Catalog.Memo
import BoundSql.Proofs.Connection.Books
import BoundSql.Proofs.Connection.Line

/-!
# Autocommit beside lookups

Outside of transactions a buffered connection ends each transaction that its driver opens for a
statement, so what a statement did lasts when it returns. The driver may open a transaction for an
inspection as well, and nobody ends that one. A catalog that asks the driver of the connection for
its names therefore strands a transaction: all statements behind the lookup join it, and what they
do is not committed any more. As long as nothing is stranded, every statement that returned lasts.
-/

namespace BoundSql

open Attempt

namespace Books

variable {k : Books}

/-- Where a transaction is open, none begins. -/
theorem begun_of_isOpen (h : k.isOpen = true) : k.begun = k := by
  obtain ⟨_, ledger⟩ := k
  cases h
  rfl

/-- Inside a transaction the statements wait. -/
theorem ranAll_of_isOpen (h : k.isOpen = true) (sqls : List String) :
    k.ranAll sqls = ⟨true, k.ledger.pending ++ sqls, k.ledger.committed⟩ := by
  induction sqls generalizing k with
  | nil =>
    rw [List.append_nil, ← h]
    rfl
  | cons sql rest ih =>
    have hran : k.ran sql = ⟨true, k.ledger.pending ++ [sql], k.ledger.committed⟩ := by
      simp only [ran, h, if_true]
    show (k.ran sql).ranAll rest = _
    rw [hran, ih rfl, List.append_assoc]
    rfl

/-- Outside of transactions the statements last. -/
theorem ranAll_of_closed (h : k.isOpen = false) (sqls : List String) :
    k.ranAll sqls = ⟨false, k.ledger.pending, k.ledger.committed ++ sqls⟩ := by
  induction sqls generalizing k with
  | nil =>
    rw [List.append_nil, ← h]
    rfl
  | cons sql rest ih =>
    have hran : k.ran sql = ⟨false, k.ledger.pending, k.ledger.committed ++ [sql]⟩ := by
      simp only [ran, h, Bool.false_eq_true, if_false]
    show (k.ran sql).ranAll rest = _
    rw [hran, ih rfl, List.append_assoc]
    rfl

end Books

/-- Outside of transactions nothing waits in the books. -/
theorem Wire.books_of_closed {w : Wire} (hclosed : w.inTransaction = false)
    (hsettled : w.books.Settled) : w.books = ⟨false, [], w.ledger.committed⟩ := by
  have hpending : w.ledger.pending = [] := hsettled hclosed
  rw [books, hclosed, ← hpending]

/-- A call that changes the far end changes the books if it passes. -/
theorem Wire.books_signal (name : String) {effect : Wire → Wire} {change : Books → Books}
    (heffect : ∀ w, (effect w).books = change w.books) (w : Wire) :
    let r := (signal name effect).run w
    r.2.books = if r.1.isOk then change w.books else w.books := by
  dsimp only
  rw [run_signal]
  cases (w.called name []).plannedFault? name with
  | some fault => rfl
  | none => exact heffect _

/-- A commit that passes makes lasting what waits. -/
theorem Wire.books_commit (w : Wire) :
    (commit.run w).2.books = if (commit.run w).1.isOk then w.books.committed else w.books :=
  books_signal "raw.commit" (fun _ => rfl) w

/-- A rollback that passes drops what waits. -/
theorem Wire.books_rollback (w : Wire) :
    (rollback.run w).2.books = if (rollback.run w).1.isOk then w.books.rolledBack else w.books :=
  books_signal "raw.rollback" (fun _ => rfl) w

namespace BufferedLink

/-! ### What a statement leaves in the books -/

/-- The driver enters a statement that it runs, after it may have opened a transaction for it. -/
theorem books_serve (statement : Statement) (link : BufferedLink) :
    let after := (serve.run (statement, link)).2.2.wire
    let k := if after.inTransaction then link.wire.books.begun else link.wire.books
    after.books = if ((perform statement).run link).1.isOk then k.ran statement.sql else k := by
  obtain ⟨opens, hwire, _⟩ := wire_serve statement link
  dsimp only
  rw [hwire, Wire.inTransaction_served]
  have hcalled : (link.wire.called "raw.execute"
    (Adapter.arguments statement.sql statement.params)).inTransaction =
      link.wire.inTransaction := rfl
  rw [hcalled]
  cases ((perform statement).run link).1.isOk <;> cases opens <;>
    cases hopen : link.wire.inTransaction <;>
    simp [Wire.served, Wire.called, Wire.opened, Wire.ran, Wire.books, Books.begun, Books.ran,
      hopen]

/-- The driver opens a transaction for a statement that nobody ends: behind a success its commit
fails, behind an error of the driver its rollback, and behind any other error none is tried. -/
def Statement.Unended (statement : Statement) (link : BufferedLink) : Prop :=
  let r := serve.run (statement, link)
  r.2.2.wire.inTransaction = true ∧
    match r.1 with
    | .ok _ => (Wire.commit.run r.2.2.wire).1.isOk = false
    | .error f => isOwnFault f = true → (Wire.rollback.run r.2.2.wire).1.isOk = false

/-- The driver opens a transaction for a statement that fails with an error of the driver's own, and
that is rolled back. -/
def Statement.isUndone (statement : Statement) (link : BufferedLink) : Bool :=
  let r := serve.run (statement, link)
  !link.wire.inTransaction && r.2.2.wire.inTransaction &&
    match r.1 with
    | .ok _ => false
    | .error f => isOwnFault f && (Wire.rollback.run r.2.2.wire).1.isOk

/-- The statement, if the driver ran it and it was not undone. -/
def Statement.effect (statement : Statement) (link : BufferedLink) : List String :=
  if ((perform statement).run link).1.isOk && !statement.isUndone link then [statement.sql] else []

/-- A statement for which the driver hands over a result was run and is not undone. -/
theorem effect_of_serve {statement : Statement} {link : BufferedLink} {rows : List Row}
    (h : (serve.run (statement, link)).1 = .ok rows) : statement.effect link = [statement.sql] := by
  obtain ⟨outcome, hperform, _⟩ := exists_outcome_of_serve h
  rw [Statement.effect, Statement.isUndone, h, hperform]
  simp [Except.isOk, Except.toBool]

/-- So was a statement that returns. -/
theorem effect_of_returns {statement : Statement} {link : BufferedLink}
    (h : (execute.run (statement, link)).1.isOk = true) :
    statement.effect link = [statement.sql] := by
  have hreturns : (execute.run (statement, link)).1 = .ok () := by
    cases hr : (execute.run (statement, link)).1 with
    | ok _ => rfl
    | error f => rw [hr] at h; cases h
  obtain ⟨rows, _, hserve⟩ := Adapter.exists_answer_of_execute hreturns
  exact effect_of_serve (congrArg Prod.fst hserve)

/-- A statement for which the driver opens no transaction of its own is entered into the books if
the driver runs it, whatever becomes of its result. -/
theorem books_execute_idle (statement : Statement) {link : BufferedLink}
    (h : link.wire.inTransaction = true ∨
      (serve.run (statement, link)).2.2.wire.inTransaction = false) :
    (execute.run (statement, link)).2.2.wire.books =
      link.wire.books.ranAll (statement.effect link) := by
  have hbooks := books_serve statement link
  have hsame : (if (serve.run (statement, link)).2.2.wire.inTransaction then
      link.wire.books.begun else link.wire.books) = link.wire.books := by
    rcases h with hopen | hclosed
    · rw [Books.begun_of_isOpen hopen, ite_self]
    · rw [hclosed]
      rfl
  have hkept : statement.isUndone link = false := by
    unfold Statement.isUndone
    rcases h with h | h <;> simp [h]
  have hrun : (execute.run (statement, link)).2 = (serve.run (statement, link)).2 := by
    rcases hserve : serve.run (statement, link) with ⟨outcome, after⟩
    rw [hserve] at h
    rw [execute, Adapter.run_execute_idle hserve h]
  dsimp only at hbooks
  rw [hrun, hbooks, hsame, Statement.effect, hkept]
  cases ((perform statement).run link).1.isOk <;> rfl

/-- What is left of a statement for which the driver opened a transaction: the end that belongs to
its outcome changes the books if it passes. -/
theorem books_execute_opened (statement : Statement) {link : BufferedLink}
    (hclosed : link.wire.inTransaction = false)
    (hopened : (serve.run (statement, link)).2.2.wire.inTransaction = true) :
    let after := (serve.run (statement, link)).2.2.wire
    let r := execute.run (statement, link)
    match (serve.run (statement, link)).1 with
    | .ok _ => r.1 = (Wire.commit.run after).1 ∧ r.2.2.wire = (Wire.commit.run after).2
    | .error f => r.1.isOk = false ∧
        r.2.2.wire = if isOwnFault f then (Wire.rollback.run after).2 else after := by
  rcases hserve : serve.run (statement, link) with ⟨outcome, statement', link'⟩
  rw [hserve] at hopened
  dsimp only at hopened ⊢
  cases outcome with
  | ok rows =>
    rw [execute, Adapter.run_execute_ok hserve hclosed hopened, run_within]
    exact ⟨rfl, rfl⟩
  | error f =>
    cases hown : isOwnFault f with
    | false =>
      rw [execute, Adapter.run_execute_foreign hserve hown]
      exact ⟨rfl, by simp [hown]⟩
    | true =>
      rw [execute, Adapter.run_execute_own hserve hclosed hopened hown, run_within]
      refine ⟨?_, by rw [hown]; rfl⟩
      dsimp only
      cases (Wire.rollback.run (wirePart.ofSecond.get (statement', link'))).1 <;> rfl

/-- A statement that leaves no transaction open is entered into the books unless it was undone. -/
theorem books_execute (statement : Statement) {link : BufferedLink}
    (hsettled : link.wire.books.Settled)
    (h : link.wire.inTransaction = false → ¬statement.Unended link) :
    (execute.run (statement, link)).2.2.wire.books =
      link.wire.books.ranAll (statement.effect link) := by
  -- the adapter ends a transaction only where the driver has opened one that was not there before
  by_cases hidle : link.wire.inTransaction = true ∨
      (serve.run (statement, link)).2.2.wire.inTransaction = false
  · exact books_execute_idle statement hidle
  · obtain ⟨hclosed, hopened⟩ : link.wire.inTransaction = false ∧
        (serve.run (statement, link)).2.2.wire.inTransaction = true := by simpa using hidle
    have hbooks := books_serve statement link
    have hrun := books_execute_opened statement hclosed hopened
    specialize h hclosed
    rw [Statement.Unended] at h
    dsimp only at hbooks hrun h
    rw [hopened, if_pos rfl, Wire.books_of_closed hclosed hsettled] at hbooks
    rw [Wire.books_of_closed hclosed hsettled]
    cases houtcome : (serve.run (statement, link)).1 with
    | ok rows =>
      rw [houtcome] at hrun h
      have hcommit : (Wire.commit.run (serve.run (statement, link)).2.2.wire).1.isOk = true := by
        simpa [hopened] using h
      obtain ⟨_, hperform, _⟩ := exists_outcome_of_serve houtcome
      rw [hperform] at hbooks
      rw [hrun.2, Wire.books_commit, hcommit, hbooks, effect_of_serve houtcome]
      rfl
    | error f =>
      rw [houtcome] at hrun h
      have hrollback : isOwnFault f = true ∧
          (Wire.rollback.run (serve.run (statement, link)).2.2.wire).1.isOk = true := by
        simpa [hopened] using h
      have hundone : statement.isUndone link = true := by
        simp [Statement.isUndone, houtcome, hclosed, hopened, hrollback]
      rw [hrun.2, if_pos hrollback.1, Wire.books_rollback, hrollback.2, hbooks, Statement.effect,
        hundone]
      cases ((perform statement).run link).1.isOk <;> rfl

/-- A statement that leaves a transaction open fails; what the driver did for it waits. -/
theorem books_unended (statement : Statement) {link : BufferedLink}
    (hclosed : link.wire.inTransaction = false) (hsettled : link.wire.books.Settled)
    (h : statement.Unended link) :
    let r := execute.run (statement, link)
    r.1.isOk = false ∧ r.2.2.wire.books =
      ⟨true, statement.effect link, link.wire.ledger.committed⟩ := by
  have hbooks := books_serve statement link
  obtain ⟨hopened, hend⟩ := h
  have hrun := books_execute_opened statement hclosed hopened
  dsimp only at hbooks hrun hend ⊢
  rw [hopened, if_pos rfl, Wire.books_of_closed hclosed hsettled] at hbooks
  cases houtcome : (serve.run (statement, link)).1 with
  | ok rows =>
    rw [houtcome] at hrun hend
    obtain ⟨_, hperform, _⟩ := exists_outcome_of_serve houtcome
    rw [hperform] at hbooks
    rw [hrun.1, hrun.2, Wire.books_commit, hend, hbooks, effect_of_serve houtcome]
    exact ⟨rfl, rfl⟩
  | error f =>
    rw [houtcome] at hrun hend
    have hkept : statement.isUndone link = false := by
      simpa [Statement.isUndone, houtcome, hclosed, hopened] using hend
    have hwaits : (execute.run (statement, link)).2.2.wire.books =
        (serve.run (statement, link)).2.2.wire.books := by
      rw [hrun.2]
      split
      · rename_i hown
        rw [Wire.books_rollback, hend hown]
        rfl
      · rfl
    refine ⟨hrun.1, ?_⟩
    rw [hwaits, hbooks, Statement.effect, hkept]
    cases ((perform statement).run link).1.isOk <;> rfl

/-- On an orderly connection no statement leaves a transaction open. -/
theorem Orderly.not_unended {link : BufferedLink} (horderly : link.Orderly)
    (hclosed : link.wire.inTransaction = false) (statement : Statement) :
    ¬statement.Unended link := by
  rintro ⟨hopened, hend⟩
  obtain ⟨opens, hwire, hfault, _⟩ := wire_serve statement link
  have hopens : opens = true := by
    rw [hwire, Wire.inTransaction_served] at hopened
    simpa [Wire.called, hclosed] using hopened
  have hends : ∀ name effect, link.wire.Unplanned name →
      ((Wire.signal name effect).run (serve.run (statement, link)).2.2.wire).1.isOk = true := by
    intro name effect hname
    rw [Wire.run_signal_unplanned effect fun p hp => hname p ?_]
    · rfl
    · rwa [hwire, Wire.plan_served] at hp
  cases houtcome : (serve.run (statement, link)).1 with
  | ok rows =>
    rw [houtcome] at hend
    exact absurd (hend.symm.trans (hends _ _ (horderly.commits _ (by simp)))) Bool.false_ne_true
  | error f =>
    rw [houtcome] at hend
    obtain ⟨o, ho, hraised⟩ := hfault f hopens houtcome
    have hrollback := hend (horderly.own o ho f hraised)
    exact absurd (hrollback.symm.trans (hends _ _ (horderly.rollsBack _ (by simp))))
      Bool.false_ne_true

/-- A statement that leaves no transaction open returns exactly if its result is handed over. -/
theorem isOk_execute (statement : Statement) {link : BufferedLink}
    (h : link.wire.inTransaction = false → ¬statement.Unended link) :
    (execute.run (statement, link)).1.isOk = (serve.run (statement, link)).1.isOk := by
  by_cases hidle : link.wire.inTransaction = true ∨
      (serve.run (statement, link)).2.2.wire.inTransaction = false
  · rcases hserve : serve.run (statement, link) with ⟨outcome, after⟩
    rw [hserve] at hidle
    rw [execute, Adapter.run_execute_idle hserve hidle]
    cases outcome <;> rfl
  · obtain ⟨hclosed, hopened⟩ : link.wire.inTransaction = false ∧
        (serve.run (statement, link)).2.2.wire.inTransaction = true := by simpa using hidle
    have hrun := books_execute_opened statement hclosed hopened
    specialize h hclosed
    rw [Statement.Unended] at h
    dsimp only at hrun h
    cases houtcome : (serve.run (statement, link)).1 with
    | ok rows =>
      rw [houtcome] at hrun h
      have hcommit : (Wire.commit.run (serve.run (statement, link)).2.2.wire).1.isOk = true := by
        simpa [hopened] using h
      rw [hrun.1, hcommit]
      rfl
    | error f =>
      rw [houtcome] at hrun
      rw [hrun.1]
      rfl

/-- Running a statement plans no errors and adds nothing to the script. -/
theorem same_execute (statement : Statement) (link : BufferedLink) :
    let link' := (execute.run (statement, link)).2.2
    link'.wire.plan = link.wire.plan ∧ ∀ o ∈ link'.script, o ∈ link.script := by
  obtain ⟨_, hwire, _, hscript⟩ := wire_serve statement link
  obtain ⟨w, hplan, hafter⟩ :=
    Adapter.exists_run_execute lawful_wirePart.ofSecond isOwnFault serve (statement, link)
  have hserved : (serve.run (statement, link)).2.2.wire.plan = link.wire.plan := by
    rw [hwire, Wire.plan_served]
    rfl
  dsimp only
  rw [execute, hafter]
  exact ⟨hplan.trans hserved, hscript⟩

/-- An inspection is one call; once that has passed it opens a transaction, if the driver opens one
for it, and then it may fail. -/
theorem run_tableNames (link : BufferedLink) :
    let called := (Wire.call "inspect" [link.schema]).run link.wire
    tableNames.run link =
      match called.1 with
      | .error f => (.error f, { link with wire := called.2 })
      | .ok _ =>
        ((match link.inspectionFaults.headD none with
          | some fault => .error (.driver fault)
          | none => .ok link.tables), { link with
          wire := if link.inspectionOpens then called.2.opened else called.2
          inspectionFaults := link.inspectionFaults.drop 1 }) := by
  dsimp only
  unfold tableNames
  rw [run_bind, run_state]
  dsimp only
  rw [run_bind, run_call, Wire.run_call]
  cases (link.wire.called "inspect" [link.schema]).plannedFault? "inspect" with
  | some fault => rfl
  | none =>
    dsimp only
    rw [run_bind, run_state]
    dsimp only
    obtain ⟨_, _, _, _, _, _, _, opens, faults⟩ := link
    rcases faults with _ | ⟨_ | fault, rest⟩ <;> cases opens <;> rfl

/-- Whether the call of an inspection passes. -/
def inspects (link : BufferedLink) : Bool :=
  ((Wire.call "inspect" [link.schema]).run link.wire).1.isOk

/-- An inspection whose call passes opens a transaction, if the driver opens one for it. -/
theorem books_tableNames (link : BufferedLink) :
    (tableNames.run link).2.wire.books =
      if link.inspects && link.inspectionOpens then link.wire.books.begun
      else link.wire.books := by
  rw [run_tableNames, inspects, Wire.run_call]
  cases (link.wire.called "inspect" [link.schema]).plannedFault? "inspect" with
  | some fault => rfl
  | none => cases link.inspectionOpens <;> rfl

/-- An inspection plans no errors and leaves the script as it is. -/
theorem same_tableNames (link : BufferedLink) :
    (tableNames.run link).2.wire.plan = link.wire.plan ∧
      (tableNames.run link).2.script = link.script := by
  rw [run_tableNames, Wire.run_call]
  cases (link.wire.called "inspect" [link.schema]).plannedFault? "inspect" with
  | some fault => exact ⟨rfl, rfl⟩
  | none => cases link.inspectionOpens <;> exact ⟨rfl, rfl⟩

/-! ### A connection that is shared with a catalog -/

/-- A connection beside a catalog of its tables, with what the catalog reported. -/
structure Shared where
  /-- The connection. -/
  link : BufferedLink
  /-- The catalog, which asks the driver of the connection. -/
  catalog : Catalog
  /-- What was reported. -/
  log : List LogEvent

/-- What is done at a shared connection while nobody begins a transaction. -/
inductive Turn where
  /-- A call on the catalog. -/
  | lookup (call : Catalog.Call)
  /-- A prepared statement runs, with whatever was bound to it. -/
  | execute (statement : Statement)

namespace Shared

/-- The connection as a part of the whole. -/
def linkPart : Part Shared BufferedLink := ⟨link, fun link s => { s with link }⟩

/-- The catalog as a part of the whole. -/
def catalogPart : Part Shared Catalog := ⟨catalog, fun catalog s => { s with catalog }⟩

/-- Ask the driver for the names. -/
def inspect : Attempt Shared (List Value) := tableNames.within linkPart

/-- Report how many names there are. -/
def announce (count : Nat) : Attempt Shared Unit :=
  .update fun s => { s with log := s.log ++ [.schemaCacheLoaded count] }

/-- Make a call on the catalog. -/
def look (call : Catalog.Call) : Attempt Shared Catalog.Reply :=
  call.on catalogPart inspect announce

end Shared

/-- Take a turn. -/
def Turn.take : Turn → Attempt Shared Unit
  | lookup call => do
    let _ ← Shared.look call
    pure ()
  | execute statement => do
    let _ ← (Connection.use statement Connection.execute).within Shared.linkPart
    pure ()

namespace Shared

variable {s : Shared} {turn : Turn} {turns : List Turn}

/-- The driver is asked for the names while they are not known. -/
theorem link_tables (s : Shared) :
    ((Catalog.tables catalogPart inspect announce).run s).2.link =
      if !s.catalog.isLoaded then (tableNames.run s.link).2 else s.link := by
  cases hnames : s.catalog.names with
  | some names =>
    have hknown : (catalogPart.get s).names = some names := hnames
    rw [Catalog.run_tables_known hknown, Catalog.isLoaded, hnames]
    rfl
  | none =>
    have hunknown : (catalogPart.get s).names = none := hnames
    have hinspect : inspect.run s =
        ((tableNames.run s.link).1, { s with link := (tableNames.run s.link).2 }) := rfl
    rw [Catalog.isLoaded, hnames]
    cases hasked : (tableNames.run s.link).1 with
    | error f =>
      rw [hasked] at hinspect
      rw [Catalog.run_tables_failed hunknown hinspect]
      rfl
    | ok entries =>
      rw [hasked] at hinspect
      rw [Catalog.run_tables_fetched hunknown hinspect]
      rfl

/-- A call on the catalog asks the driver if it needs names that are not known. -/
theorem link_look (call : Catalog.Call) (s : Shared) :
    ((look call).run s).2.link =
      if call.looksUp && !s.catalog.isLoaded then (tableNames.run s.link).2 else s.link := by
  cases hcall : call.looksUp with
  | true =>
    rw [Bool.true_and, ← link_tables, look, Catalog.Call.run_on hcall, run_bind]
    rcases (Catalog.tables catalogPart inspect announce).run s with ⟨outcome, t⟩
    cases outcome with
    | error f => rfl
    | ok names =>
      dsimp only
      rw [run_ofExcept]
  | false =>
    cases call with
    | hasTable name =>
      rw [look, Catalog.Call.on, run_bind, Catalog.run_hasTable_empty hcall]
      rfl
    | invalidate => rfl
    | tables | preload => cases hcall

/-- The books of the connection. -/
abbrev books (s : Shared) : Books := s.link.wire.books

/-- A lookup begins a transaction if it asks a driver that opens one for it. -/
theorem books_look (call : Catalog.Call) (s : Shared) :
    ((look call).run s).2.books =
      if call.looksUp && !s.catalog.isLoaded && (s.link.inspects && s.link.inspectionOpens) then
        s.books.begun
      else s.books := by
  rw [books, link_look]
  cases call.looksUp && !s.catalog.isLoaded with
  | false => rfl
  | true => exact books_tableNames s.link

end Shared

namespace Turn

/-- A turn strands a transaction: it finds none open, and nobody ends the one that the driver opens
for it. A lookup does that if it asks for the names, whether or not they are told. -/
def Strands (s : Shared) : Turn → Prop
  | lookup call => s.link.wire.inTransaction = false ∧ call.looksUp = true ∧
    s.catalog.isLoaded = false ∧ s.link.inspects = true ∧ s.link.inspectionOpens = true
  | execute statement => s.link.wire.inTransaction = false ∧ statement.Unended s.link

/-- The statement of a turn, if it returned. -/
def returned (s : Shared) : Turn → List String
  | lookup _ => []
  | execute statement =>
    if ((execute statement).take.run s).1.isOk then [statement.sql] else []

/-- The statement of a turn, if the driver ran it and it was not undone. -/
def effect (s : Shared) : Turn → List String
  | lookup _ => []
  | execute statement => statement.effect s.link

variable {s : Shared} {turn : Turn}

/-- The turn of a statement runs it and does nothing else. -/
theorem run_execute (statement : Statement) (s : Shared) :
    let r := BufferedLink.execute.run (statement, s.link)
    (execute statement).take.run s = (r.1, { s with link := r.2.2 }) := by
  dsimp only
  rw [take, run_bind, run_within, Connection.run_use]
  have hexecute : Connection.execute (L := BufferedLink) = BufferedLink.execute := rfl
  rw [hexecute]
  dsimp only [Shared.linkPart]
  cases (BufferedLink.execute.run (statement, s.link)).1 <;> rfl

/-- A lookup leaves what the call on the catalog leaves. -/
theorem run_lookup (call : Catalog.Call) (s : Shared) :
    ((lookup call).take.run s).2 = ((Shared.look call).run s).2 := by
  rw [take, run_bind]
  rcases (Shared.look call).run s with ⟨outcome, t⟩
  cases outcome <;> rfl

/-- A turn that strands nothing enters its statement into the books if it took effect. -/
theorem books_of_not_strands (hsettled : s.books.Settled) (h : ¬turn.Strands s) :
    (turn.take.run s).2.books = s.books.ranAll (turn.effect s) := by
  cases turn with
  | lookup call =>
    rw [run_lookup, Shared.books_look]
    split
    · rename_i hasked
      simp only [Bool.and_eq_true, Bool.not_eq_true'] at hasked
      obtain ⟨⟨hcall, hloaded⟩, hpasses, hopens⟩ := hasked
      have hopen : s.books.isOpen = true := by
        by_contra hclosed
        exact h ⟨Bool.eq_false_iff.mpr hclosed, hcall, hloaded, hpasses, hopens⟩
      rw [Books.begun_of_isOpen hopen]
      rfl
    · rfl
  | execute statement =>
    have hunended : s.link.wire.inTransaction = false → ¬statement.Unended s.link :=
      fun hclosed hunended => h ⟨hclosed, hunended⟩
    rw [run_execute]
    exact books_execute statement hsettled hunended

/-- Behind a turn that strands a transaction it is open, with what the driver did for the turn. -/
theorem books_of_strands (hsettled : s.books.Settled) (h : turn.Strands s) :
    (turn.take.run s).2.books = ⟨true, turn.effect s, s.link.wire.ledger.committed⟩ := by
  cases turn with
  | lookup call =>
    obtain ⟨hclosed, hcall, hloaded, hpasses, hopens⟩ := h
    rw [run_lookup, Shared.books_look, hcall, hloaded, hpasses, hopens, Shared.books,
      Wire.books_of_closed hclosed hsettled]
    rfl
  | execute statement =>
    obtain ⟨hclosed, hunended⟩ := h
    rw [run_execute]
    exact (books_unended statement hclosed hsettled hunended).2

/-- A transaction is stranded where none was open. -/
theorem Strands.closed (h : turn.Strands s) : s.link.wire.inTransaction = false := by
  cases turn with
  | lookup call => exact h.1
  | execute statement => exact h.1

/-- Every turn leaves nothing to wait outside of transactions. -/
theorem settled_take (hsettled : s.books.Settled) (turn : Turn) :
    (turn.take.run s).2.books.Settled := by
  by_cases h : turn.Strands s
  · rw [books_of_strands hsettled h]
    exact nofun
  · rw [books_of_not_strands hsettled h]
    exact hsettled.ranAll _

/-- No turn ends a transaction that it finds open. -/
theorem isOpen_take (hopen : s.books.isOpen = true) (turn : Turn) :
    (turn.take.run s).2.books.isOpen = true := by
  have hsettled : s.books.Settled := fun hclosed => absurd (hopen.symm.trans hclosed) nofun
  -- what finds a transaction open joins it, and strands none of its own
  have hstrands : ¬turn.Strands s := fun h => absurd (hopen.symm.trans h.closed) nofun
  rw [books_of_not_strands hsettled hstrands, Books.ranAll_of_isOpen hopen]

/-- A statement that returned took effect. -/
theorem returned_sublist_effect (s : Shared) (turn : Turn) :
    (turn.returned s).Sublist (turn.effect s) := by
  cases turn with
  | lookup call => exact .refl _
  | execute statement =>
    rw [returned]
    split
    · rename_i hreturns
      rw [run_execute] at hreturns
      have heffect : (execute statement).effect s = [statement.sql] := effect_of_returns hreturns
      exact heffect ▸ List.Sublist.refl [statement.sql]
    · exact List.nil_sublist _

/-- Where results are handed over no other one took effect, unless the turn strands a
transaction. -/
theorem effect_eq_returned (hwhole : s.link.Whole) (h : ¬turn.Strands s) :
    turn.effect s = turn.returned s := by
  cases turn with
  | lookup call => rfl
  | execute statement =>
    have hreturns := isOk_execute statement fun hclosed hunended => h ⟨hclosed, hunended⟩
    rw [hwhole.isOk_serve] at hreturns
    rw [returned, run_execute]
    dsimp only
    split
    · rename_i hok
      exact effect_of_returns hok
    · rename_i hfails
      rw [hreturns] at hfails
      rw [effect, Statement.effect, Bool.eq_false_iff.mpr hfails]
      rfl

/-- A turn plans no errors and adds nothing to the script. -/
theorem same_take (s : Shared) (turn : Turn) :
    let link' := (turn.take.run s).2.link
    link'.wire.plan = s.link.wire.plan ∧ ∀ o ∈ link'.script, o ∈ s.link.script := by
  cases turn with
  | lookup call =>
    obtain ⟨hplan, hscript⟩ := same_tableNames s.link
    dsimp only
    rw [run_lookup, Shared.link_look]
    split
    · exact ⟨hplan, fun o ho => hscript ▸ ho⟩
    · exact ⟨rfl, fun o ho => ho⟩
  | execute statement =>
    dsimp only
    rw [run_execute]
    exact same_execute statement s.link

end Turn

namespace Shared

variable {s : Shared} {turns : List Turn}

/-- The state after some turns, whatever came of each. -/
def after (turns : List Turn) (s : Shared) : Shared :=
  turns.foldl (fun s turn => (turn.take.run s).2) s

/-- The statements that took effect in some turns, in order. -/
def effects : List Turn → Shared → List String
  | [], _ => []
  | turn :: rest, s => turn.effect s ++ effects rest (turn.take.run s).2

/-- One of the turns strands a transaction. -/
def Stranded (s : Shared) (turns : List Turn) : Prop :=
  ∃ front turn back, turns = front ++ turn :: back ∧ turn.Strands (s.after front)

theorem after_append (front back : List Turn) (s : Shared) :
    s.after (front ++ back) = (s.after front).after back := List.foldl_append

theorem after_concat (front : List Turn) (turn : Turn) (s : Shared) :
    s.after (front ++ [turn]) = (turn.take.run (s.after front)).2 := after_append front [turn] s

/-- No turns leave anything to wait outside of transactions. -/
theorem settled_after (hsettled : s.books.Settled) (turns : List Turn) :
    (s.after turns).books.Settled := by
  induction turns generalizing s with
  | nil => exact hsettled
  | cons turn rest ih => exact ih (turn.settled_take hsettled)

/-- A transaction that is open stays open. -/
theorem isOpen_after (hopen : s.books.isOpen = true) (turns : List Turn) :
    (s.after turns).books.isOpen = true := by
  induction turns generalizing s with
  | nil => exact hopen
  | cons turn rest ih => exact ih (turn.isOpen_take hopen)

/-- Where a transaction is open, none is stranded. -/
theorem not_stranded_of_isOpen (hopen : s.books.isOpen = true) (turns : List Turn) :
    ¬s.Stranded turns := by
  rintro ⟨front, turn, back, rfl, hturn⟩
  exact absurd ((isOpen_after hopen front).symm.trans hturn.closed) nofun

/-- As long as nothing is stranded, the statements that took effect are entered into the books. -/
theorem books_after (hsettled : s.books.Settled) (h : ¬s.Stranded turns) :
    (s.after turns).books = s.books.ranAll (s.effects turns) := by
  -- on the turns from the first one, with the state in front of them left free
  induction turns generalizing s with
  | nil => rfl
  | cons turn rest ih =>
    have hturn : ¬turn.Strands s := fun hstrands => h ⟨[], turn, rest, rfl, hstrands⟩
    have hrest : ¬(turn.take.run s).2.Stranded rest := by
      rintro ⟨front, later, back, rfl, hlater⟩
      exact h ⟨turn :: front, later, back, rfl, hlater⟩
    have hbooks := ih (turn.settled_take hsettled) hrest
    rw [Turn.books_of_not_strands hsettled hturn] at hbooks
    rw [effects, Books.ranAll, List.foldl_append]
    exact hbooks

/-- Behind a turn that strands a transaction every statement that takes effect waits. -/
theorem books_after_stranded (hsettled : s.books.Settled) {turn : Turn} (h : turn.Strands s)
    (back : List Turn) :
    let t := (turn.take.run s).2
    (t.after back).books =
      ⟨true, turn.effect s ++ t.effects back, s.link.wire.ledger.committed⟩ := by
  have hbooks := Turn.books_of_strands hsettled h
  have hopen : (turn.take.run s).2.books.isOpen = true := by rw [hbooks]
  have hback := books_after (turn.settled_take hsettled) (not_stranded_of_isOpen hopen back)
  rw [Books.ranAll_of_isOpen hopen, hbooks] at hback
  exact hback

/-- Where no transaction is open at first and nothing is stranded, the statements that took effect
last. -/
theorem books_of_not_stranded (hclosed : s.link.wire.inTransaction = false)
    (hsettled : s.books.Settled) (h : ¬s.Stranded turns) :
    (s.after turns).books = ⟨false, [], s.link.wire.ledger.committed ++ s.effects turns⟩ := by
  rw [books_after hsettled h, books, Wire.books_of_closed hclosed hsettled]
  exact Books.ranAll_of_closed rfl _

/-- As long as nothing is stranded, what takes effect lasts. -/
theorem committed_of_not_stranded (hclosed : s.link.wire.inTransaction = false)
    (hsettled : s.books.Settled) (h : ¬s.Stranded turns) :
    (s.after turns).link.wire.ledger.committed =
      s.link.wire.ledger.committed ++ s.effects turns :=
  congrArg (fun k => k.ledger.committed) (books_of_not_stranded hclosed hsettled h)

/-- What is stranded stays open. -/
theorem isOpen_of_stranded (hsettled : s.books.Settled) (h : s.Stranded turns) :
    (s.after turns).books.isOpen = true := by
  obtain ⟨front, turn, back, rfl, hturn⟩ := h
  rw [after_append]
  exact congrArg Books.isOpen (books_after_stranded (settled_after hsettled front) hturn back)

/-- A statement that returns is entered into the books. -/
theorem books_after_returned (hsettled : s.books.Settled) (turns : List Turn)
    {statement : Statement}
    (hreturns : ((Turn.execute statement).take.run (s.after turns)).1.isOk = true) :
    (s.after (turns ++ [.execute statement])).books =
      (s.after turns).books.ranAll [statement.sql] := by
  have hstrands : ¬(Turn.execute statement).Strands (s.after turns) := by
    rintro ⟨hclosed, hunended⟩
    have hfails := (books_unended statement hclosed (settled_after hsettled turns) hunended).1
    rw [Turn.run_execute] at hreturns
    exact absurd (hreturns.symm.trans hfails) nofun
  rw [Turn.run_execute] at hreturns
  rw [after_concat, Turn.books_of_not_strands (settled_after hsettled turns) hstrands,
    Turn.effect, effect_of_returns hreturns]

/-- The turns plan no errors and add nothing to the script. -/
theorem same_after (turns : List Turn) (s : Shared) :
    (s.after turns).link.wire.plan = s.link.wire.plan ∧
      ∀ o ∈ (s.after turns).link.script, o ∈ s.link.script := by
  induction turns generalizing s with
  | nil => exact ⟨rfl, fun _ ho => ho⟩
  | cons turn rest ih =>
    obtain ⟨hplan, hscript⟩ := turn.same_take s
    obtain ⟨hplan', hscript'⟩ := ih (turn.take.run s).2
    exact ⟨hplan'.trans hplan, fun o ho => hscript o (hscript' o ho)⟩

/-- What becomes of the statements at a connection that is shared with a catalog. -/
structure Autocommits (s : Shared) (turns : List Turn) : Prop where
  /-- A transaction is open exactly if one of the turns stranded it. -/
  inTransaction : (s.after turns).link.wire.inTransaction = true ↔ s.Stranded turns
  /-- As long as none did, all statements that took effect last and nothing waits, -/
  lasting : ¬s.Stranded turns → (s.after turns).link.wire.ledger =
    ⟨[], s.link.wire.ledger.committed ++ s.effects turns⟩
  /-- and a statement lasts as soon as it returns. -/
  commits : ¬s.Stranded turns → ∀ statement,
    ((Turn.execute statement).take.run (s.after turns)).1.isOk = true →
      let t := s.after (turns ++ [.execute statement])
      t.link.wire.inTransaction = false ∧ t.link.wire.ledger =
        ⟨[], (s.after turns).link.wire.ledger.committed ++ [statement.sql]⟩
  /-- Behind a turn that did, none of the statements lasts: those that take effect wait, -/
  waiting : ∀ front turn back, turns = front ++ turn :: back → turn.Strands (s.after front) →
    (s.after turns).link.wire.ledger =
      ⟨turn.effect (s.after front) ++ (s.after (front ++ [turn])).effects back,
        s.link.wire.ledger.committed ++ s.effects front⟩
  /-- and a statement waits when it returns. -/
  withholds : s.Stranded turns → ∀ statement,
    ((Turn.execute statement).take.run (s.after turns)).1.isOk = true →
      let t := s.after (turns ++ [.execute statement])
      t.link.wire.inTransaction = true ∧ t.link.wire.ledger =
        ⟨(s.after turns).link.wire.ledger.pending ++ [statement.sql],
          (s.after turns).link.wire.ledger.committed⟩
  /-- A statement that returned took effect. -/
  returned : ∀ front turn back, turns = front ++ turn :: back →
    (turn.returned (s.after front)).Sublist (turn.effect (s.after front))
  /-- Where the driver hands over the result of every statement that it runs, no other statement
  took effect but one that strands a transaction. -/
  whole : s.link.Whole → ∀ front turn back, turns = front ++ turn :: back →
    ¬turn.Strands (s.after front) → turn.effect (s.after front) = turn.returned (s.after front)
  /-- Where no end of a transaction raises and the driver fails with errors of its own only, nothing
  but a lookup strands a transaction. -/
  orderly : s.link.Orderly → ∀ front turn back, turns = front ++ turn :: back →
    turn.Strands (s.after front) → ∃ call, turn = .lookup call

/-- However lookups and statements follow each other on a connection on which no transaction is
open and nobody begins one, its statements are committed when they return until a turn strands a
transaction, and none of them is from then on. -/
theorem autocommits (s : Shared) (turns : List Turn)
    (hclosed : s.link.wire.inTransaction = false) (hpending : s.link.wire.ledger.pending = []) :
    Autocommits s turns := by
  have hsettled : s.books.Settled := fun _ => hpending
  refine
    { inTransaction := ⟨fun hopen => ?_, isOpen_of_stranded hsettled⟩
      lasting := fun h => congrArg Books.ledger (books_of_not_stranded hclosed hsettled h)
      commits := ?commits
      waiting := ?waiting
      withholds := ?withholds
      returned := fun front turn _ _ => turn.returned_sublist_effect (s.after front)
      whole := ?whole
      orderly := ?orderly }
  · by_contra h
    have hbooks := books_of_not_stranded hclosed hsettled h
    exact absurd (hopen.symm.trans (congrArg Books.isOpen hbooks)) nofun
  case commits =>
    intro h statement hreturns
    have hbooks := books_after_returned hsettled turns hreturns
    rw [books_of_not_stranded hclosed hsettled h, Books.ranAll_of_closed rfl] at hbooks
    rw [committed_of_not_stranded hclosed hsettled h]
    exact ⟨congrArg Books.isOpen hbooks, congrArg Books.ledger hbooks⟩
  case waiting =>
    rintro front turn back rfl h
    -- the first turn that strands is the only one: behind it a transaction is open
    have hfront : ¬s.Stranded front := fun hstranded =>
      absurd ((isOpen_of_stranded hsettled hstranded).symm.trans h.closed) nofun
    have hbooks := books_after_stranded (settled_after hsettled front) h back
    rw [committed_of_not_stranded hclosed hsettled hfront] at hbooks
    rw [after_append, after_concat]
    exact congrArg Books.ledger hbooks
  case withholds =>
    intro h statement hreturns
    have hbooks := books_after_returned hsettled turns hreturns
    rw [Books.ranAll_of_isOpen (isOpen_of_stranded hsettled h)] at hbooks
    exact ⟨congrArg Books.isOpen hbooks, congrArg Books.ledger hbooks⟩
  case whole =>
    rintro hwhole front turn back rfl h
    obtain ⟨_, hscript⟩ := same_after front s
    exact Turn.effect_eq_returned (fun o ho => hwhole o (hscript o ho)) h
  case orderly =>
    rintro horderly front turn back rfl h
    cases turn with
    | lookup call => exact ⟨call, rfl⟩
    | execute statement =>
      obtain ⟨hplan, hscript⟩ := same_after front s
      have hfront : (s.after front).link.Orderly := horderly.of_plan hplan hscript
      exact absurd h.2 (hfront.not_unended h.1 statement)

/-- The first statement lasts; the second, whose rows cannot be read, is undone. The lookup fails
once its query has run, and from then on statements wait, also where the names are asked for
again. -/
theorem autocommits_until_lookup :
    let fault : DriverFault := ⟨.engine, "connection reset"⟩
    let ran : BufferedOutcome := ⟨true, none, .int 1, .unavailable, none, [], none⟩
    let unread : BufferedOutcome :=
      ⟨true, none, .int 1, .unavailable, some [.text "id"], [], some fault⟩
    let link : BufferedLink :=
      ⟨.fresh false [], [ran, unread], false, false, "0", [.text "users"], .null, true,
        [some fault]⟩
    let s : Shared := ⟨link, .empty, []⟩
    let turns : List Turn :=
      [.execute (.fresh "DELETE FROM a"), .execute (.fresh "DELETE FROM b RETURNING id"),
        .lookup (.hasTable (.text "users")), .execute (.fresh "DELETE FROM c"), .lookup .tables]
    link.wire.inTransaction = false ∧ link.wire.ledger.pending = [] ∧
      ((Turn.lookup (.hasTable (.text "users"))).take.run (s.after (turns.take 2))).1 =
        .error (.driver fault) ∧
      (s.after turns).link.wire.inTransaction = true ∧
      (s.after turns).link.wire.ledger = ⟨["DELETE FROM c"], ["DELETE FROM a"]⟩ := by
  intro fault ran unread link s turns
  have h := autocommits s turns rfl rfl
  have hstrands : (Turn.lookup (.hasTable (.text "users"))).Strands (s.after (turns.take 2)) :=
    ⟨rfl, rfl, rfl, rfl, rfl⟩
  refine ⟨rfl, rfl, rfl, h.inTransaction.mpr ⟨_, _, _, rfl, hstrands⟩, ?_⟩
  exact h.waiting _ _ _ rfl hstrands

/-- A lookup finds its table and leaves a transaction open. The statement behind it returns without
being committed, so its effect is gone when the owner of the connection rolls back. A statement for
which the driver fails with an error that is not its own does the same to those behind it. -/
theorem autocommits_suspended :
    let insert : Turn := .execute (.fresh "INSERT INTO t (a) VALUES (1)")
    let lookup : Turn := .lookup (.hasTable (.text "t"))
    let fault : DriverFault := ⟨.foreign, "int too large to convert"⟩
    let link : BufferedLink :=
      ⟨.fresh false [], [], false, false, "0", [.text "t"], .null, true, []⟩
    let failing : BufferedOutcome := ⟨true, some fault, .int (-1), .unavailable, none, [], none⟩
    let s : Shared := ⟨link, .empty, []⟩
    let s' : Shared := ⟨{ link with script := [failing] }, .empty, []⟩
    s.link.wire.inTransaction = false ∧ (lookup.take.run s).1 = .ok () ∧
      (s.after [lookup]).link.wire.inTransaction = true ∧
      (insert.take.run (s.after [lookup])).1 = .ok () ∧
      (s.after [lookup, insert]).link.wire.inTransaction = true ∧
      (s.after [lookup, insert]).link.wire.ledger = ⟨["INSERT INTO t (a) VALUES (1)"], []⟩ ∧
      (Wire.rollback.run (s.after [lookup, insert]).link.wire).2.ledger = ⟨[], []⟩ ∧
      (insert.take.run s').1 = .error (.driver fault) ∧
      (s'.after [insert, lookup]).link.wire.inTransaction = true ∧
      (insert.take.run (s'.after [insert, lookup])).1 = .ok () ∧
      (s'.after [insert, lookup, insert]).link.wire.ledger =
        ⟨["INSERT INTO t (a) VALUES (1)"], []⟩ := by
  intro insert lookup fault link failing s s'
  exact ⟨rfl, rfl, rfl, rfl, rfl, rfl, rfl, rfl, rfl, rfl, rfl⟩

end Shared

end BufferedLink

end BoundSql
