import BoundSql.Binder.Run
import BoundSql.Proofs.Attempt.Keeps
import BoundSql.Proofs.Binder.Names

/-!
# Binders that are restored

Restoring a snapshot moves the counter back, so a name can be issued again. But a snapshot holds the
bindings together with the counter, so what is true of these two in the live binder is true in every
snapshot: the live names stand in the order of their numbers and the counter has passed them all.
Whichever snapshots are restored and in whatever order, the next name is none of the live ones.
-/

namespace BoundSql

open Attempt

namespace Binder

/-- The live names stand in the order of their numbers, and the counter has passed them all. -/
def Ordered (b : Binder) : Prop :=
  ∃ numbers : List Nat, numbers.Pairwise (· < ·) ∧ (∀ i ∈ numbers, 1 ≤ i ∧ i ≤ b.counter) ∧
    Entries.keys b.params = numbers.map nameOf

variable {b : Binder}

/-- Without bindings there is nothing to order. -/
theorem ordered_of_params (h : b.params = []) : b.Ordered :=
  ⟨[], .nil, nofun, congrArg Entries.keys h⟩

/-- Names in order were all issued. -/
theorem Ordered.live (h : b.Ordered) : b.Live := by
  obtain ⟨numbers, _, hpassed, hkeys⟩ := h
  intro entry he
  have hkey : entry.1 ∈ Entries.keys b.params := List.mem_map_of_mem he
  rw [hkeys] at hkey
  obtain ⟨i, hi, hname⟩ := List.mem_map.mp hkey
  exact ⟨i, (hpassed i hi).2, hname.symm⟩

/-- The next name is none of the live ones. -/
theorem Live.name_bind (h : b.Live) (v : Value) : (b.bind v).1 ∉ Entries.keys b.params := by
  intro hmem
  obtain ⟨entry, he, hkey⟩ := List.mem_map.mp hmem
  obtain ⟨n, hn, hname⟩ := h entry he
  have hnumber : n = b.counter + 1 := nameOf_injective (hname.symm.trans hkey)
  omega

/-- The next name has the greatest number. -/
theorem Ordered.bind (h : b.Ordered) (v : Value) : (b.bind v).2.Ordered := by
  have hparams := h.live.params_bind v
  obtain ⟨numbers, hsorted, hpassed, hkeys⟩ := h
  refine ⟨numbers ++ [b.counter + 1], ?_, ?_, ?_⟩
  · refine List.pairwise_append.mpr ⟨hsorted, List.pairwise_singleton _ _, ?_⟩
    intro i hi j hj
    rw [List.mem_singleton.mp hj]
    exact Nat.lt_succ_of_le (hpassed i hi).2
  · intro i hi
    rw [counter_bind]
    rcases List.mem_append.mp hi with hi | hi
    · exact ⟨(hpassed i hi).1, Nat.le_succ_of_le (hpassed i hi).2⟩
    · rw [List.mem_singleton.mp hi]
      exact ⟨Nat.le_add_left 1 b.counter, Nat.le_refl _⟩
  · rw [hparams, List.map_append, ← hkeys]
    exact List.map_append

end Binder

/-- Whether a call issues a name. -/
def BinderCall.issues : BinderCall → Bool
  | bind _ => true
  | _ => false

/-- The name that a call has issued. -/
def BinderAnswer.name? : BinderAnswer → Option String
  | name issued => some issued
  | _ => none

namespace BinderRun

/-- Make calls one after another, also behind failed ones; with what each of them came to. -/
def play : List BinderCall → BinderRun → List (Except Failure BinderAnswer) × BinderRun
  | [], r => ([], r)
  | call :: rest, r =>
    let (outcome, r) := (perform call).run r
    let (outcomes, r) := play rest r
    (outcome :: outcomes, r)

/-- The names that calls have issued, in the order of the calls. -/
def names (outcomes : List (Except Failure BinderAnswer)) : List String :=
  outcomes.filterMap fun outcome => outcome.toOption.bind BinderAnswer.name?

/-- The live names are in order, and those of every snapshot as well. -/
structure Ordered (r : BinderRun) : Prop where
  /-- The binder is in order, -/
  binder : r.binder.Ordered
  /-- and so was it whenever a snapshot was taken. -/
  snapshots : ∀ entry ∈ r.snapshots, entry.2.Ordered

theorem ordered_start : start.Ordered := ⟨Binder.ordered_of_params rfl, nofun⟩

/-- What is found among the snapshots is in order. -/
theorem Ordered.taken {r r' : BinderRun} {key : String} {saved : Binder} (h : r.Ordered)
    (hrun : (BinderRun.taken key).run r = (.ok saved, r')) : r' = r ∧ saved.Ordered := by
  obtain ⟨_, mid, hstate, hfind⟩ := run_bind_eq_ok hrun
  cases hstate
  obtain ⟨hfound, hsame⟩ := run_ofOption_eq_ok hfind
  obtain ⟨name, hmem⟩ := Entries.mem_of_find? hfound
  exact ⟨hsame, h.snapshots _ hmem⟩

/-- Looking up a snapshot changes nothing. -/
theorem keeps_taken {P : BinderRun → Prop} (key : String) : Keeps P (taken key) :=
  Keeps.bind .state fun _ => .ofOption _ _

/-- Calls keep the names in order unless they bind by name. -/
theorem keeps_ordered (call : BinderCall) (h : ∀ name value, call ≠ .assign name value) :
    Keeps Ordered (perform call) := by
  intro r hr
  cases call with
  | bind value => exact ⟨hr.binder.bind value, hr.snapshots⟩
  | reset => exact ⟨Binder.ordered_of_params rfl, hr.snapshots⟩
  | snapshot key =>
    refine ⟨hr.binder, fun entry hmem => ?_⟩
    rcases Entries.mem_put hmem with hmem | hsaved
    · exact hr.snapshots entry hmem
    · rw [hsaved]
      exact hr.binder
  | restore key =>
    refine holds_bind (keeps_taken key r hr) fun saved r' hfound _ => ?_
    obtain ⟨rfl, hsaved⟩ := hr.taken hfound
    exact ⟨hsaved, hr.snapshots⟩
  | inspect key => exact (keeps_taken key).bind (fun _ => .pure _) r hr
  | assign name value => exact absurd rfl (h name value)

/-- A run of such calls keeps the names in order. -/
theorem Ordered.play {calls : List BinderCall} (h : ∀ name value, .assign name value ∉ calls)
    {r : BinderRun} (hr : r.Ordered) : (BinderRun.play calls r).2.Ordered := by
  induction calls generalizing r with
  | nil => exact hr
  | cons call rest ih =>
    refine ih (fun name value hmem => h name value (List.mem_cons_of_mem _ hmem)) ?_
    refine keeps_ordered call ?_ r hr
    rintro name value rfl
    exact h name value List.mem_cons_self

/-- A call that does not restore issues the next name or none. -/
theorem issued_perform {call : BinderCall} (h : ∀ key, call ≠ .restore key) (r : BinderRun) :
    let (outcome, r') := (perform call).run r
    r'.binder.counter = r.binder.counter + [call].countP BinderCall.issues ∧
      names [outcome] = Binder.issued r.binder.counter ([call].countP BinderCall.issues) := by
  cases call with
  | bind value => exact ⟨rfl, rfl⟩
  | reset => exact ⟨rfl, rfl⟩
  | snapshot key => exact ⟨rfl, rfl⟩
  | restore key => exact absurd rfl (h key)
  | inspect key =>
    have hsame := keeps_taken (P := (· = r)) key r rfl
    dsimp only [perform]
    rw [run_bind]
    rcases hfound : (taken key).run r with ⟨outcome, r'⟩
    rw [hfound] at hsame
    cases outcome with
    | ok saved => exact ⟨congrArg (·.binder.counter) hsame, rfl⟩
    | error failure => exact ⟨congrArg (·.binder.counter) hsame, rfl⟩
  | assign name value => exact ⟨rfl, rfl⟩

/-- Without restores the names issued are the next ones, as many as there are calls that bind. -/
theorem issued_play {calls : List BinderCall} (h : ∀ key, .restore key ∉ calls) (r : BinderRun) :
    let (outcomes, r') := play calls r
    r'.binder.counter = r.binder.counter + calls.countP BinderCall.issues ∧
      names outcomes = Binder.issued r.binder.counter (calls.countP BinderCall.issues) := by
  induction calls generalizing r with
  | nil => exact ⟨rfl, rfl⟩
  | cons call rest ih =>
    have hcall : ∀ key, call ≠ .restore key := by
      rintro key rfl
      exact h key List.mem_cons_self
    have hfirst := issued_perform hcall r
    rcases hperform : (perform call).run r with ⟨outcome, r'⟩
    have hrest := ih (fun key hmem => h key (List.mem_cons_of_mem _ hmem)) r'
    rcases hplay : play rest r' with ⟨outcomes, r''⟩
    rw [hperform] at hfirst
    rw [hplay] at hrest
    rw [play, hperform]
    dsimp only at hfirst hrest ⊢
    rw [hplay]
    obtain ⟨hcounter, hnames⟩ := hfirst
    obtain ⟨hcounter', hnames'⟩ := hrest
    dsimp only
    rw [← List.singleton_append (l := rest), List.countP_append, Binder.issued_append, ← hcounter,
      ← hnames, ← hnames', ← List.singleton_append (l := outcomes), hcounter', hcounter]
    exact ⟨Nat.add_assoc .., List.filterMap_append⟩

end BinderRun

end BoundSql
