import BoundSql.Proofs.Builder.Groups
import BoundSql.Proofs.Session.Numbers

/-!
# Open groups in a session

Each builder of a session has as many groups open as group calls on it are under way. Single calls
keep these numbers for every builder, and so does a call with steps inside it, whatever the steps
do: the group that it opens it also closes, when the steps fail as well.
-/

namespace BoundSql

open Attempt

variable {L : Type} [Connection L]

namespace Session

/-- The session while group calls on the builders of some numbers are under way; `size` builders at
least have been made. -/
structure Grouped (running : List Nat) (size : Nat) (s : Session L) : Prop where
  /-- Each builder has as many groups open as group calls on it are under way. -/
  builders : ∀ n, (s.builder n).query.Grouped (running.count n)
  /-- Registers hold the numbers of builders that were made. -/
  registers : ∀ entry ∈ s.registers, entry.2 < s.builders.length
  /-- So many builders have been made. -/
  size_le : size ≤ s.builders.length

variable {running : List Nat} {size : Nat}

theorem grouped_start (settings : Settings) (dialect : Dialect) (link : Option L)
    (tables : TableSource) (trace : Bool) :
    Grouped [] 1 (start settings dialect link tables trace) := by
  have hnumbered := numbered_start settings dialect link tables trace
  refine ⟨fun n => ?_, hnumbered.registers, hnumbered.size_le⟩
  cases n with
  | zero => exact Builder.grouped_fresh dialect
  | succ n => exact Builder.grouped_fresh _

namespace Grouped

variable {s : Session L}

/-- The registers of such a session name builders that are there. -/
theorem numbered (h : Grouped running size s) : Numbered size s := ⟨h.registers, h.size_le⟩

/-- The number of builders that were made may be taken to be all of them. -/
theorem all (h : Grouped running size s) : Grouped running s.builders.length s :=
  ⟨h.builders, h.registers, Nat.le_refl _⟩

theorem mono (h : Grouped running size s) {size' : Nat} (hsize : size' ≤ size) :
    Grouped running size' s := ⟨h.builders, h.registers, Nat.le_trans hsize h.size_le⟩

/-- A change of other parts of the session leaves the groups as they are. -/
theorem of_builders {t : Session L} (h : Grouped running size s)
    (hbuilders : t.builders = s.builders) (hregisters : t.registers = s.registers)
    (hsettings : t.settings = s.settings) : Grouped running size t := by
  have hnumbered := h.numbered.of_length (congrArg List.length hbuilders) hregisters
  refine ⟨fun n => ?_, hnumbered.registers, hnumbered.size_le⟩
  unfold builder
  rw [hbuilders, hsettings]
  exact h.builders n

/-- Group calls run on builders that were made. -/
theorem lt_of_mem (h : Grouped running size s) {n : Nat} (hn : n ∈ running) :
    n < s.builders.length := by
  by_contra hlength
  have hfresh : s.builder n = .fresh (.ofTarget s.settings.target) := by
    unfold builder
    rw [List.getElem?_eq_none (Nat.le_of_not_lt hlength)]
    rfl
  have hunmatched := (h.builders n).wheres.unmatched
  rw [hfresh] at hunmatched
  have hcount : 0 < running.count n := List.count_pos_iff.mpr hn
  have hnone : Token.openings (Builder.fresh (.ofTarget s.settings.target)).query.wheres = 0 := rfl
  omega

/-- A builder is replaced by one with as many groups open as group calls on it are then under
way. -/
theorem setBuilder {running' : List Nat} (h : Grouped running size s) {n : Nat} {b : Builder}
    (hb : b.query.Grouped (running'.count n))
    (hother : ∀ m, m ≠ n ∨ s.builders.length ≤ n → running'.count m = running.count m) :
    Grouped running' size { s with builders := s.builders.set n b } := by
  have hnumbered := h.numbered.setBuilder n b
  refine ⟨fun m => ?_, hnumbered.registers, hnumbered.size_le⟩
  refine holds_builder_set (Q := fun b => b.query.Grouped (running'.count m)) ?_ ?_
  · rintro rfl _
    exact hb
  · intro hm
    rw [hother m hm]
    exact h.builders m

end Grouped

/-- What keeps the open groups of any query keeps those of a builder's. -/
theorem keeps_within_query {α : Type} (n : Nat) {act : Attempt Query α}
    (h : ∀ k, Keeps (fun q => q.Grouped k) act) :
    Keeps (Grouped (L := L) running size) (act.within (queryPart n)) :=
  fun _ hs => hs.setBuilder (h _ _ (hs.builders n)) fun _ _ => rfl

/-- A new builder has no groups, and no group call on it is under way. -/
theorem Grouped.newBuilder {s : Session L} (h : Grouped running size s) (register : String) :
    Grouped running (s.builders.length + 1) ((Session.newBuilder register).run s).2 := by
  have hnumbered := h.numbered.newBuilder register
  refine ⟨fun n => ?_, hnumbered.registers, hnumbered.size_le⟩
  rw [builder_newBuilder]
  exact h.builders n

/-- The groups of builders are no part of what a snapshot holds. -/
theorem steady_grouped : Steady (Grouped (L := L) running size) where
  others _ _ hbuilders hregisters hsettings hs := hs.of_builders hbuilders hregisters hsettings
  builder s n b hb hs := by
    have hwheres : b.query.wheres = (s.builder n).query.wheres := by rw [← hb]; rfl
    have hhaving : b.query.having = (s.builder n).query.having := by rw [← hb]; rfl
    exact hs.setBuilder ((hs.builders n).of_lists hwheres hhaving) fun _ _ => rfl
  kind n kind := keeps_within_query n fun _ => .update fun _ h => h.of_lists rfl rfl
  newBuilder register s hs := (hs.newBuilder register).mono (Nat.le_succ_of_le hs.size_le)

end Session

/-- Whether a call goes through the calls of a builder, rather than writing into its lists. -/
def BuilderCall.isRegular : BuilderCall → Bool
  | push _ _ => false
  | _ => true

/-- Whether an action goes through the calls of a builder, rather than writing into its lists. -/
def Action.isRegular : Action → Bool
  | .builder call => call.isRegular
  | _ => true

/-- A call that runs no other steps keeps the groups of every builder. -/
theorem Action.keeps_perform {running : List Nat} {size : Nat} (site : Site) (here : Receiver)
    {action : Action} (h : action.isRegular = true) :
    Keeps (Session.Grouped (L := L) running size) (action.perform site here) := by
  refine keeps_performed Session.steady_grouped site here action (fun call _ n => ?_) ?_
  · exact Session.keeps_within_query n fun _ => call.keeps_apply
  · rintro n list token rfl
    cases h

end BoundSql
