import BoundSql.Proofs.Attempt.Failures
import BoundSql.Proofs.Condition.Balance

/-!
# Condition lists that are refused

A list of tests and markers is written exactly if it is balanced. Where it is not, it is refused for
the first group that is closed without being open, and otherwise for the number of groups that are
left open; nothing else about its members matters.
-/

namespace BoundSql

namespace Token

variable {tokens : List Token}

/-- A list of which no prefix closes too many groups is balanced up to the groups it leaves open. -/
theorem balanced_of_prefixes (h : ∀ front, front <+: tokens → closings front ≤ openings front) :
    Balanced tokens (openings tokens - closings tokens) := by
  have htokens := h tokens (List.prefix_refl tokens)
  exact ⟨h, by omega⟩

/-- The number of groups that a list leaves open is determined. -/
theorem Balanced.unique {k k' : Nat} (h : Balanced tokens k) (h' : Balanced tokens k') :
    k = k' := by
  have hk := h.unmatched
  have hk' := h'.unmatched
  omega

end Token

namespace Expression

open Attempt Token

variable {d : Dialect} {clause : String} {tokens : List Token}

/-- The members are tests and markers that can be written, and what is written out among them is
text. -/
structure Writable (tokens : List Token) : Prop where
  /-- Every member is a test or a marker. -/
  known : ∀ s, .foreign s ∉ tokens
  /-- The tests can be written, and those written out are texts. -/
  textual : ∀ token ∈ tokens, Textual token

/-- What a list is refused for: a prefix that closes more groups than it opens, or, where there is
none, the groups that are left open. -/
inductive Unbalanced (clause : String) (tokens : List Token) : Failure → Prop
  | close (h : ∃ front, front <+: tokens ∧ openings front < closings front) :
    Unbalanced clause tokens (.unmatchedClose clause)
  | unclosed {k : Nat} (h : Balanced tokens k) (hk : k ≠ 0) :
    Unbalanced clause tokens (.unclosedGroups clause k)

/-- A list that is refused is not balanced, -/
theorem Unbalanced.not_balanced {failure : Failure} (h : Unbalanced clause tokens failure) :
    ¬Balanced tokens 0 := by
  intro hbalanced
  cases h with
  | close hclose =>
    obtain ⟨front, hfront, hcount⟩ := hclose
    have hle := hbalanced.opened_first front hfront
    omega
  | unclosed hopen hk => exact hk (hopen.unique hbalanced)

/-- and a list is balanced if there is nothing to refuse it for. -/
theorem balanced_iff : Balanced tokens 0 ↔ ∀ failure, ¬Unbalanced clause tokens failure := by
  constructor
  · exact fun h failure hrefused => hrefused.not_balanced h
  · intro h
    have hfirst : ∀ front, front <+: tokens → closings front ≤ openings front := by
      intro front hfront
      by_contra hlt
      exact h _ (.close ⟨front, hfront, by omega⟩)
    have hbalanced := balanced_of_prefixes hfirst
    by_contra hne
    refine h _ (.unclosed hbalanced fun hzero => hne ?_)
    rwa [hzero] at hbalanced

/-- Where the members close a group that is not open, the pass over them stops there. -/
theorem steps_unmatched (d : Dialect) (clause : String) (hw : Writable tokens) {p : Progress}
    (h : ∃ front, front <+: tokens ∧ openings front + p.groups.length < closings front)
    (b : Binder) : ((steps d clause p tokens).run b).1 = .error (.unmatchedClose clause) := by
  induction tokens generalizing p b with
  | nil =>
    obtain ⟨front, hfront, hcount⟩ := h
    rw [List.prefix_nil.mp hfront] at hcount
    cases hcount
  | cons token rest ih =>
    have hopenings := openings_append [token]
    have hclosings := closings_append [token]
    simp only [List.singleton_append] at hopenings hclosings
    have hrest : Writable rest :=
      ⟨fun s hm => hw.known s (.tail _ hm), fun token hm => hw.textual token (.tail _ hm)⟩
    rw [steps, run_bind]
    by_cases hstays : closings [token] ≤ openings [token] + p.groups.length
    · have hstep : Ends p [token] ((step d clause p token).run b).1 := ends_step hstays b
      rcases hrun : (step d clause p token).run b with ⟨outcome, b'⟩
      rw [hrun] at hstep
      cases hstep with
      | unwritten hm =>
        obtain ⟨token', hmem, hfails⟩ := hm
        rw [List.mem_singleton.mp hmem] at hfails
        exact absurd (hw.textual token List.mem_cons_self) hfails.not_textual
      | foreign hm =>
        obtain ⟨s, hmem⟩ := hm
        rw [← List.mem_singleton.mp hmem] at hw
        exact absurd List.mem_cons_self (hw.known s)
      | done q hq =>
        refine ih hrest ?_ b'
        obtain ⟨front, hfront, hcount⟩ := h
        rcases List.prefix_cons_iff.mp hfront with rfl | ⟨front', rfl, hfront'⟩
        · cases hcount
        · refine ⟨front', hfront', ?_⟩
          rw [hopenings, hclosings] at hcount
          omega
    · -- the member closes a group and none is open
      cases token with
      | closing =>
        have hnone : p.groups = [] := by
          rw [← List.length_eq_zero_iff]
          have hcount : closings [.closing] = 1 ∧ openings [.closing] = 0 := ⟨rfl, rfl⟩
          omega
        rw [step, closeGroup, hnone]
        rfl
      | _ => exact absurd (Nat.zero_le _) hstays

/-- A writable list is refused for being unbalanced, and for nothing else. -/
theorem failsExactly_render (hw : Writable tokens) :
    FailsExactly (Unbalanced clause tokens) (render d clause tokens) := by
  intro b failure
  by_cases hclose : ∃ front, front <+: tokens ∧ openings front < closings front
  · have hrun : ((render d clause tokens).run b).1 = .error (.unmatchedClose clause) := by
      have hsteps := steps_unmatched d clause (p := .start) hw hclose b
      rw [render, run_bind]
      rcases hpass : (steps d clause .start tokens).run b with ⟨outcome, b'⟩
      rw [hpass] at hsteps
      cases hsteps
      rfl
    rw [hrun]
    constructor
    · intro h
      cases h
      exact .close hclose
    · intro h
      cases h with
      | close _ => rfl
      | unclosed hopen _ =>
        obtain ⟨front, hfront, hcount⟩ := hclose
        have hle := hopen.opened_first front hfront
        omega
  · have hfirst : ∀ front, front <+: tokens → closings front ≤ openings front := by
      intro front hfront
      by_contra hlt
      exact hclose ⟨front, hfront, by omega⟩
    have hbalanced := balanced_of_prefixes hfirst
    have hcloses : Closes clause tokens _ ((render d clause tokens).run b).1 :=
      closes_render hbalanced b
    generalize ((render d clause tokens).run b).1 = outcome at hcloses ⊢
    cases hcloses with
    | unwritten hm =>
      obtain ⟨token, hmem, hfails⟩ := hm
      exact absurd (hw.textual token hmem) hfails.not_textual
    | foreign hm =>
      obtain ⟨s, hmem⟩ := hm
      exact absurd hmem (hw.known s)
    | unclosed hk =>
      constructor
      · intro h
        cases h
        exact .unclosed hbalanced hk
      · intro h
        cases h with
        | close h => exact absurd h hclose
        | unclosed hopen _ => rw [hopen.unique hbalanced]
    | text hk s =>
      rw [hk] at hbalanced
      refine iff_of_false (fun h => ?_) fun h => h.not_balanced hbalanced
      cases h

/-- A clause is refused for what its list is refused for, whether it guards or not. -/
theorem failsExactly_renderClause (hw : Writable tokens) (guarded : Bool) :
    FailsExactly (Unbalanced clause tokens) (renderClause d clause tokens guarded) := by
  refine (failsExactly_render hw).bind_never fun expression => ?_
  split
  · exact .pure _
  · split <;> exact .pure _

end Expression

end BoundSql
