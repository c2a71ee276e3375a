import BoundSql.Condition.Tree
import BoundSql.Proofs.Condition.Balance

/-!
# Balanced lists are bracketings

The balanced lists without foreign members are the flat lists of rows of nodes. What is left of a
list inside some open groups is a row for the innermost of them, then, behind the end of each group,
a row for what stands around it.
-/

namespace BoundSql.Token

open Node

/-- A row, and behind the end of each of the groups that hold it the row that follows. -/
def remainder (row : List Node) (outer : List (List Node)) : List Token :=
  tokensAll row ++ outer.flatMap fun row => .closing :: tokensAll row

theorem remainder_cons (node : Node) (row : List Node) (outer : List (List Node)) :
    remainder (node :: row) outer = node.tokens ++ remainder row outer := by
  simp only [remainder, tokensAll, List.append_assoc]

/-- A group that is opened in front takes the first row, and its end the row that follows. -/
theorem remainder_group (connector : Connector) (members row : List Node)
    (outer : List (List Node)) :
    remainder (.group connector members :: row) outer =
      .opening connector :: remainder members (row :: outer) := by
  simp [remainder, tokensAll, tokens]

/-- What closes the groups that are open, and no others, is a row for each of them. -/
theorem exists_remainder {tokens : List Token} {k : Nat} (hknown : ∀ s, .foreign s ∉ tokens)
    (hfirst : ∀ front, front <+: tokens → closings front ≤ openings front + k)
    (hall : openings tokens + k = closings tokens) :
    ∃ row outer, outer.length = k ∧ remainder row outer = tokens := by
  induction tokens generalizing k with
  | nil =>
    have hk : k = 0 := by simpa [openings, closings] using hall
    exact ⟨[], [], hk.symm, rfl⟩
  | cons token rest ih =>
    have hknown' : ∀ s, .foreign s ∉ rest := fun s hm => hknown s (List.mem_cons_of_mem _ hm)
    have hopenings := openings_append [token]
    have hclosings := closings_append [token]
    simp only [List.singleton_append] at hopenings hclosings
    have hprefix : ∀ front, front <+: rest →
        closings [token] + closings front ≤ openings [token] + openings front + k := by
      intro front hfront
      rw [← hopenings, ← hclosings]
      exact hfirst (token :: front) (List.cons_prefix_cons.mpr ⟨rfl, hfront⟩)
    rw [hopenings, hclosings] at hall
    cases token with
    | test connector t =>
      have hcount : closings [.test connector t] = 0 ∧ openings [.test connector t] = 0 :=
        ⟨rfl, rfl⟩
      have hrest : ∀ front, front <+: rest → closings front ≤ openings front + k := by
        intro front hfront
        have hle := hprefix front hfront
        omega
      obtain ⟨row, outer, hlength, rfl⟩ := ih hknown' hrest (by omega)
      exact ⟨.test connector t :: row, outer, hlength, remainder_cons ..⟩
    | opening connector =>
      have hcount : closings [.opening connector] = 0 ∧ openings [.opening connector] = 1 :=
        ⟨rfl, rfl⟩
      have hrest : ∀ front, front <+: rest → closings front ≤ openings front + (k + 1) := by
        intro front hfront
        have hle := hprefix front hfront
        omega
      obtain ⟨members, outer, hlength, rfl⟩ := ih hknown' hrest (by omega)
      obtain ⟨row, outer, rfl⟩ := List.exists_cons_of_length_eq_add_one hlength
      refine ⟨.group connector members :: row, outer, ?_, remainder_group ..⟩
      rw [List.length_cons] at hlength
      omega
    | closing =>
      have hcount : closings [.closing] = 1 ∧ openings [.closing] = 0 := ⟨rfl, rfl⟩
      have hopen := hprefix [] List.nil_prefix
      have hrest : ∀ front, front <+: rest → closings front ≤ openings front + (k - 1) := by
        intro front hfront
        have hle := hprefix front hfront
        omega
      have hnone : closings [] = 0 ∧ openings [] = 0 := ⟨rfl, rfl⟩
      obtain ⟨row, outer, hlength, rfl⟩ := ih hknown' hrest (by omega)
      refine ⟨[], row :: outer, ?_, rfl⟩
      rw [List.length_cons]
      omega
    | foreign s => exact absurd List.mem_cons_self (hknown s)

/-- A balanced list without foreign members is the flat list of a row of nodes. -/
theorem Balanced.exists_nodes {tokens : List Token} (h : Balanced tokens 0)
    (hknown : ∀ s, .foreign s ∉ tokens) : ∃ nodes, tokensAll nodes = tokens := by
  have hall : openings tokens + 0 = closings tokens := h.unmatched
  obtain ⟨nodes, outer, hlength, hnodes⟩ := exists_remainder hknown h.opened_first hall
  obtain rfl := List.length_eq_zero_iff.mp hlength
  refine ⟨nodes, ?_⟩
  rw [← hnodes, remainder, List.flatMap_nil, List.append_nil]

mutual

/-- The flat list of a node leaves as many groups open as there were, -/
theorem Balanced.append_node {tokens : List Token} {k : Nat} (h : Balanced tokens k) (node : Node) :
    Balanced (tokens ++ node.tokens) k := by
  match node with
  | .test connector t => exact h.concat (.test connector t) rfl
  | .group connector members =>
    have hclosed := ((h.concat_opening connector).append_row members).concat_closing
    simpa only [Node.tokens, List.append_assoc, List.cons_append, List.nil_append] using hclosed

/-- and so does that of a row. -/
theorem Balanced.append_row {tokens : List Token} {k : Nat} (h : Balanced tokens k)
    (nodes : List Node) : Balanced (tokens ++ tokensAll nodes) k := by
  match nodes with
  | [] => rwa [tokensAll, List.append_nil]
  | node :: rest =>
    rw [tokensAll, ← List.append_assoc]
    exact (h.append_node node).append_row rest

end

/-- The flat list of a row of nodes is balanced. -/
theorem balanced_tokensAll (nodes : List Node) : Balanced (tokensAll nodes) 0 :=
  balanced_nil.append_row nodes

end BoundSql.Token
