import BoundSql.Transaction

/-!
# Using the connection of a line

A use of the connection fails where there is none, and otherwise comes out as it does on the
connection, which takes its place in the line again.
-/

namespace BoundSql

open Attempt

variable {L σ α : Type}

/-- Use a prepared statement that is kept only while it goes on well. -/
def Connection.use [Connection L] (statement : Connection.Statement L)
    (act : Attempt (Connection.Statement L × L) α) : Attempt L (α × Connection.Statement L) :=
  fun link =>
    match act (statement, link) with
    | (.ok a, statement, link) => (.ok (a, statement), link)
    | (.error f, _, link) => (.error f, link)

/-- A statement is used with its connection. -/
theorem Connection.run_use [Connection L] (statement : Connection.Statement L)
    (act : Attempt (Connection.Statement L × L) α) (link : L) :
    (use statement act).run link =
      ((act.run (statement, link)).1.map fun a => (a, (act.run (statement, link)).2.1),
        (act.run (statement, link)).2.2) := by
  unfold use Attempt.run
  dsimp only
  rcases act (statement, link) with ⟨outcome, statement', link'⟩
  cases outcome <;> rfl

namespace Line

/-- A call on the line is one on its connection. -/
theorem run_ask (absent : Failure) (act : Attempt L α) {l : Line L} {link : L}
    (h : l.link = some link) :
    (ask absent act).run l = ((act.run link).1, { l with link := some (act.run link).2 }) := by
  obtain ⟨_, log⟩ := l
  cases h
  rfl

/-- Without a connection a call is refused. -/
theorem run_ask_absent (absent : Failure) (act : Attempt L α) {l : Line L} (h : l.link = none) :
    (ask absent act).run l = (.error absent, l) := by
  obtain ⟨_, log⟩ := l
  cases h
  rfl

/-- A call is reported where it passes. -/
theorem run_signal (absent : Failure) (act : Attempt L Unit) (e : LogEvent) {l : Line L} {link : L}
    (h : l.link = some link) :
    (signal absent act e).run l =
      ((act.run link).1,
        ⟨some (act.run link).2, if (act.run link).1.isOk then l.log ++ [e] else l.log⟩) := by
  rw [signal, run_bind, run_ask absent act h]
  rcases act.run link with ⟨outcome, link'⟩
  cases outcome <;> rfl

/-- Without a connection no transaction is begun or ended. -/
theorem run_signal_absent (absent : Failure) (act : Attempt L Unit) (e : LogEvent) {l : Line L}
    (h : l.link = none) : (signal absent act e).run l = (.error absent, l) := by
  rw [signal, run_bind, run_ask_absent absent act h]

variable [Connection L]

/-- Whether a transaction is open is read off the connection. -/
theorem run_ask_inTransaction (absent : Failure) {l : Line L} {link : L}
    (h : l.link = some link) :
    (ask absent (do return Connection.inTransaction (← .state))).run l =
      (.ok (Connection.inTransaction link), l) := by
  obtain ⟨_, log⟩ := l
  cases h
  rfl

/-- A statement is used with the connection of the line. -/
theorem run_use (statement : Connection.Statement L)
    (act : Attempt (Connection.Statement L × L) α) {l : Line L} {link : L}
    (h : l.link = some link) :
    (use statement act).run l =
      ((act.run (statement, link)).1.map fun a => (a, (act.run (statement, link)).2.1),
        { l with link := some (act.run (statement, link)).2.2 }) := by
  have huse : use statement act = ask .noConnection (Connection.use statement act) := rfl
  rw [huse, run_ask _ _ h, Connection.run_use]

end Line

end BoundSql
