import BoundSql.Proofs.Session.Steady
import BoundSql.Session.Run

/-!
# The numbers of builders

Registers hold numbers of builders that were made, and builders are never removed. So whichever
receiver a step finds, the builder behind it has been made.
-/

namespace BoundSql

open Attempt

variable {L : Type} [Connection L] {size : Nat} {site : Site} {here receiver : Receiver}

namespace Session

/-- Registers hold the numbers of builders that were made; `size` of them at least have been. -/
structure Numbered (size : Nat) (s : Session L) : Prop where
  /-- Registers hold the numbers of builders that were made. -/
  registers : ∀ entry ∈ s.registers, entry.2 < s.builders.length
  /-- So many builders have been made. -/
  size_le : size ≤ s.builders.length

theorem numbered_start (settings : Settings) (dialect : Dialect) (link : Option L)
    (tables : TableSource) (trace : Bool) :
    Numbered 1 (start settings dialect link tables trace) := by
  refine ⟨fun entry hm => ?_, Nat.le_refl 1⟩
  rw [List.mem_singleton.mp hm]
  exact Nat.zero_lt_one

/-- The number that a register answers with stands among the registers. -/
theorem mem_of_numberOf {s t : Session L} {register : String} {n : Nat}
    (h : (numberOf register).run s = (.ok n, t)) : ∃ name, (name, n) ∈ s.registers := by
  obtain ⟨_, mid, hstate, hfind⟩ := run_bind_eq_ok h
  cases hstate
  obtain ⟨hfound, _⟩ := run_ofOption_eq_ok hfind
  exact Entries.mem_of_find? hfound

namespace Numbered

variable {s t : Session L}

/-- The number of builders that were made may be taken to be all of them. -/
theorem all (h : Numbered size s) : Numbered s.builders.length s := ⟨h.registers, Nat.le_refl _⟩

theorem mono (h : Numbered size s) {size' : Nat} (hsize : size' ≤ size) : Numbered size' s :=
  ⟨h.registers, Nat.le_trans hsize h.size_le⟩

/-- Sessions with the same registers and as many builders. -/
theorem of_length (h : Numbered size s) (hlength : t.builders.length = s.builders.length)
    (hregisters : t.registers = s.registers) : Numbered size t := by
  refine ⟨?_, ?_⟩
  · rw [hlength, hregisters]
    exact h.registers
  · rw [hlength]
    exact h.size_le

/-- Replacing a builder keeps all numbers. -/
theorem setBuilder (h : Numbered size s) (n : Nat) (b : Builder) :
    Numbered size { s with builders := s.builders.set n b } :=
  h.of_length (List.length_set ..) rfl

/-- A new builder gets the next number. -/
theorem newBuilder (h : Numbered size s) (register : String) :
    Numbered (s.builders.length + 1) ((Session.newBuilder register).run s).2 := by
  rw [run_newBuilder]
  refine ⟨fun entry hm => ?_, ?_⟩
  · dsimp only
    rw [List.length_append]
    rcases Entries.mem_put hm with hm | hvalue
    · exact Nat.lt_add_right 1 (h.registers entry hm)
    · rw [hvalue]
      exact Nat.lt_succ_self _
  · dsimp only
    rw [List.length_append]
    exact Nat.le_refl _

/-- Looking for a receiver finds one of the builders that were made, and changes nothing. -/
theorem receiverOf (h : Numbered size s) (hhere : here.number < size)
    (hrun : (Session.receiverOf site here).run s = (.ok receiver, t)) :
    t = s ∧ receiver.number < s.builders.length := by
  have hsame : Keeps (· = s) (Session.receiverOf site here) := keeps_receiverOf site here
  have ht := hsame s rfl
  rw [hrun] at ht
  refine ⟨ht, ?_⟩
  have hnumber : ∀ r : Receiver,
      Receiver.number (if site.handle then .group r.number else r) = r.number := by
    intro r
    split <;> rfl
  unfold Session.receiverOf at hrun
  cases hregister : site.register with
  | none =>
    rw [hregister] at hrun
    cases hrun
    rw [hnumber]
    exact Nat.lt_of_lt_of_le hhere h.size_le
  | some register =>
    rw [hregister] at hrun
    obtain ⟨n, mid, hfound, hmade⟩ := run_bind_eq_ok hrun
    cases hmade
    obtain ⟨name, hm⟩ := mem_of_numberOf hfound
    rw [hnumber]
    exact h.registers _ hm

/-- Looking for a builder finds one that was made, and changes nothing. -/
theorem needBuilder (h : Numbered size s) (hhere : here.number < size) {n : Nat}
    (hrun : (Session.needBuilder site here).run s = (.ok n, t)) :
    t = s ∧ n < s.builders.length := by
  obtain ⟨receiver, mid, hfound, hbuilder⟩ := run_bind_eq_ok hrun
  obtain ⟨rfl, hnumber⟩ := h.receiverOf hhere hfound
  cases receiver with
  | builder m =>
    cases hbuilder
    exact ⟨rfl, hnumber⟩
  | group m => cases hbuilder

variable {fr mid : Frame L}

/-- The same of looking for a receiver inside a frame, -/
theorem receiverOf_frame (h : fr.session.Numbered size) (hhere : here.number < size)
    (hrun : ((Session.receiverOf site here).within Frame.sessionPart).run fr =
      (.ok receiver, mid)) :
    mid = fr ∧ receiver.number < fr.session.builders.length := by
  obtain ⟨s, hfound, rfl⟩ := run_within_eq_ok hrun
  obtain ⟨rfl, hnumber⟩ := h.receiverOf hhere hfound
  exact ⟨rfl, hnumber⟩

/-- and of looking for a builder there. -/
theorem needBuilder_frame (h : fr.session.Numbered size) (hhere : here.number < size) {n : Nat}
    (hrun : ((Session.needBuilder site here).within Frame.sessionPart).run fr = (.ok n, mid)) :
    mid = fr ∧ n < fr.session.builders.length := by
  obtain ⟨s, hfound, rfl⟩ := run_within_eq_ok hrun
  obtain ⟨rfl, hnumber⟩ := h.needBuilder hhere hfound
  exact ⟨rfl, hnumber⟩

end Numbered

end Session

end BoundSql
