import BoundSql.Connection.Direct
import BoundSql.Proofs.Connection.Wire
import BoundSql.Proofs.Desk.Service

/-!
# Connections on which calls pass

Where every single call of a connection passes, every statement is served and its rows are read. On
a direct connection that is so unless errors are planned for its calls.
-/

namespace BoundSql

open Attempt

variable {L σ τ α β : Type}

namespace Attempt

/-- From the states of a property an attempt answers, and the property holds again. -/
def Passes (P : σ → Prop) (act : Attempt σ α) : Prop :=
  ∀ s, P s → ∃ a t, act.run s = (.ok a, t) ∧ P t

namespace Passes

variable {P : σ → Prop}

protected theorem pure (a : α) : Passes P (Pure.pure a : Attempt σ α) := fun s hs => ⟨a, s, rfl, hs⟩

protected theorem state : Passes P (Attempt.state : Attempt σ σ) := fun s hs => ⟨s, s, rfl, hs⟩

protected theorem update {f : σ → σ} (h : ∀ s, P s → P (f s)) : Passes P (Attempt.update f) :=
  fun s hs => ⟨(), f s, rfl, h s hs⟩

/-- A sequence passes if both of its halves do. -/
protected theorem bind {act : Attempt σ α} {next : α → Attempt σ β} (h : Passes P act)
    (hn : ∀ a, Passes P (next a)) : Passes P (act >>= next) := by
  intro s hs
  obtain ⟨a, t, hact, ht⟩ := h s hs
  obtain ⟨b, u, hnext, hu⟩ := hn a t ht
  refine ⟨b, u, ?_, hu⟩
  rw [run_bind, hact]
  exact hnext

/-- An attempt on a part passes where it does on the part. -/
protected theorem within {part : Part σ τ} {Q : τ → Prop} {act : Attempt τ α} (h : Passes Q act)
    (hget : ∀ s, P s → Q (part.get s)) (hput : ∀ s t, P s → Q t → P (part.put t s)) :
    Passes P (act.within part) := by
  intro s hs
  obtain ⟨a, t, hact, ht⟩ := h (part.get s) (hget s hs)
  exact ⟨a, part.put t s, by rw [run_within, hact], hput s t hs ht⟩

end Passes

end Attempt

namespace Connection

variable [Connection L]

/-- A connection on which the calls for two statements pass, whatever the statements are: the first
row of the one is taken, then all rows of the other. -/
def Serves (link : L) : Prop :=
  ∀ c, ∃ row link', (firstRow c).run link = (.ok row, link') ∧
    ∀ c', ∃ rows link'', (allRows c').run link' = (.ok rows, link'')

/-- Every single call passes on the connections of a property. -/
structure Passing (P : L → Prop) : Prop where
  prepare : ∀ sql, Passes P (prepare sql)
  bind : ∀ name value, Passes (fun s : Statement L × L => P s.2) (bind name value)
  execute : Passes (fun s : Statement L × L => P s.2) execute
  fetch : Passes (fun s : Statement L × L => P s.2) fetch
  fetchAll : Passes (fun s : Statement L × L => P s.2) fetchAll

variable {P : L → Prop}

/-- A use that passes passes on the connection. -/
theorem passes_use {act : Attempt (Statement L × L) α}
    (h : Passes (fun s : Statement L × L => P s.2) act) (statement : Statement L) :
    Passes P (use statement act) := by
  intro link hlink
  obtain ⟨a, ⟨statement', link'⟩, hact, hlink'⟩ := h (statement, link) hlink
  refine ⟨(a, statement'), link', ?_, hlink'⟩
  rw [run_use, hact]
  rfl

namespace Passing

/-- All values can be bound on a connection that passes everything. -/
theorem bindAll (h : Passing P) (params : Bindings) (statement : Statement L) :
    Passes P (bindAll statement params) := by
  induction params generalizing statement with
  | nil => exact .pure statement
  | cons param rest ih => exact (passes_use (h.bind param.1 param.2) statement).bind fun r => ih r.2

/-- Such a connection serves every statement. -/
theorem serve (h : Passing P) (c : Compiled) : Passes P (serve c) :=
  (h.prepare c.sql).bind fun statement => (h.bindAll c.params statement).bind fun statement =>
    (passes_use h.execute statement).bind fun r => .pure r.2

/-- Two statements are served, since each call for them passes. -/
theorem serves (h : Passing P) {link : L} (hlink : P link) : Serves link := by
  intro c
  have hfirst : Passes P (firstRow c) := (h.serve c).bind fun statement =>
    (passes_use h.fetch statement).bind fun r => .pure r.1
  obtain ⟨row, link', hrow, hlink'⟩ := hfirst link hlink
  refine ⟨row, link', hrow, fun c' => ?_⟩
  have hall : Passes P (allRows c') := (h.serve c').bind fun statement =>
    (passes_use h.fetchAll statement).bind fun r => .pure r.1
  obtain ⟨rows, link'', hrows, _⟩ := hall link' hlink'
  exact ⟨rows, link'', hrows⟩

end Passing

end Connection

/-- A wire for which no errors are planned passes every call. -/
theorem Wire.passes_call (name : String) (args : List Value) :
    Passes (fun w : Wire => w.plan = []) (call name args) := by
  intro w hw
  have hunplanned : w.Unplanned name := by
    intro p hp
    rw [hw] at hp
    cases hp
  exact ⟨(), w.called name args, run_call_unplanned hunplanned, hw⟩

/-- A direct connection for which no errors are planned passes every call. -/
theorem Direct.passing : Connection.Passing fun d : Direct => d.wire.plan = [] := by
  have hnear : ∀ name args,
      Passes (fun d : Direct => d.wire.plan = []) ((Wire.call name args).within Direct.wirePart) :=
    fun name args => (Wire.passes_call name args).within (fun _ h => h) fun _ _ _ h => h
  have hfar : ∀ name args, Passes (fun s : Direct.Statement × Direct => s.2.wire.plan = [])
      ((Wire.call name args).within Direct.farEnd) :=
    fun name args => (Wire.passes_call name args).within (fun _ h => h) fun _ _ _ h => h
  refine ⟨fun sql => (hnear "prepare" [.text sql]).bind fun _ => .bind .state fun d => ?_,
    fun name value => hfar "bind" [.text name, value], (hfar "execute" []).bind fun _ => ?_,
    (hfar "fetch" []).bind fun _ => .bind .state fun s => ?_,
    (hfar "fetch_all" []).bind fun _ => .bind .state fun s => ?_⟩
  · exact .bind (.update fun _ h => h) fun _ => .pure _
  · refine .update fun s h => ?_
    dsimp only
    rw [Wire.plan_ran]
    exact h
  · exact .bind (.update fun _ h => h) fun _ => .pure _
  · exact .bind (.update fun _ h => h) fun _ => .pure _

end BoundSql
