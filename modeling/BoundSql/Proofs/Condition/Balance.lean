import BoundSql.Condition.Expression
import BoundSql.Proofs.Condition.Written

/-!
# Balanced condition lists

In a balanced list no group is closed that was not opened, and a known number of groups is still
open at its end. The pass over a list opens and closes groups as its markers do, so a balanced list
never meets an unmatched close, and its groups are unclosed exactly in their number.
-/

namespace BoundSql

namespace Token

/-- Whether a member opens a group. -/
def opens : Token → Bool
  | opening _ => true
  | _ => false

/-- Whether a member closes a group. -/
def closes : Token → Bool
  | closing => true
  | _ => false

/-- The number of groups that a list opens. -/
def openings (tokens : List Token) : Nat := tokens.countP opens

/-- The number of groups that a list closes. -/
def closings (tokens : List Token) : Nat := tokens.countP closes

/-- Whether a member is a test. -/
def IsTest (token : Token) : Prop := ∃ connector t, token = .test connector t

/-- Whether a token marks where a group begins or ends. -/
def IsMarker : Token → Prop
  | opening _ | closing => True
  | _ => False

@[simp] theorem openings_append (left right : List Token) :
    openings (left ++ right) = openings left + openings right := List.countP_append

@[simp] theorem closings_append (left right : List Token) :
    closings (left ++ right) = closings left + closings right := List.countP_append

/-- No prefix closes more groups than it opens, and `k` groups are open at the end. -/
structure Balanced (tokens : List Token) (k : Nat) : Prop where
  /-- Every prefix opens at least as many groups as it closes. -/
  opened_first : ∀ front, front <+: tokens → closings front ≤ openings front
  /-- So many groups are opened and not closed. -/
  unmatched : openings tokens = closings tokens + k

theorem balanced_nil : Balanced [] 0 := by
  refine ⟨fun front h => ?_, rfl⟩
  rw [List.prefix_nil.mp h]
  exact Nat.le_refl _

/-- One more member changes the number of open groups by what it opens and closes. -/
theorem Balanced.concat {tokens : List Token} {k k' : Nat} (h : Balanced tokens k) (token : Token)
    (heq : openings [token] + k = closings [token] + k') : Balanced (tokens ++ [token]) k' := by
  have hunmatched := h.unmatched
  constructor
  · intro front hfront
    rcases List.prefix_concat_iff.mp hfront with rfl | hfront
    · rw [openings_append, closings_append]
      omega
    · exact h.opened_first front hfront
  · rw [openings_append, closings_append]
    omega

/-- Tests at the end change nothing. -/
theorem Balanced.append_tests {tokens tests : List Token} {k : Nat} (h : Balanced tokens k)
    (ht : ∀ token ∈ tests, token.IsTest) : Balanced (tokens ++ tests) k := by
  induction tests generalizing tokens with
  | nil => rwa [List.append_nil]
  | cons token rest ih =>
    obtain ⟨connector, t, rfl⟩ := ht _ List.mem_cons_self
    rw [List.append_cons]
    exact ih (h.concat (.test connector t) rfl) fun token hm => ht token (List.mem_cons_of_mem _ hm)

theorem balanced_of_tests {tokens : List Token} (h : ∀ token ∈ tokens, token.IsTest) :
    Balanced tokens 0 := balanced_nil.append_tests h

/-- An opening adds an open group. -/
theorem Balanced.concat_opening {tokens : List Token} {k : Nat} (h : Balanced tokens k)
    (connector : Connector) : Balanced (tokens ++ [.opening connector]) (k + 1) := by
  have hopens : openings [.opening connector] = 1 := rfl
  have hcloses : closings [.opening connector] = 0 := rfl
  refine h.concat (.opening connector) ?_
  omega

/-- A closing takes an open group away. -/
theorem Balanced.concat_closing {tokens : List Token} {k : Nat} (h : Balanced tokens (k + 1)) :
    Balanced (tokens ++ [.closing]) k := by
  have hopens : openings [.closing] = 0 := rfl
  have hcloses : closings [.closing] = 1 := rfl
  refine h.concat .closing ?_
  omega

end Token

namespace Expression

open Token

variable {d : Dialect} {clause : String}

/-- A member is textual if it can be written, and a condition it holds written out is a text. -/
structure Textual (token : Token) : Prop where
  isWritable : ∀ connector t, token = .test connector t → t.isWritable = true
  raw : ∀ connector sql, token = .test connector (.raw sql) → ∃ s, sql = .text s

/-- Whether a member is textual. -/
def isTextual : Token → Bool
  | .test _ (.raw sql) => match sql with
    | .text _ => true
    | _ => false
  | .test _ t => t.isWritable
  | _ => true

theorem isTextual_iff {token : Token} : isTextual token = true ↔ Textual token := by
  constructor
  · intro h
    constructor
    · rintro connector t rfl
      cases t with
      | raw sql =>
        cases sql with
        | text s => rfl
        | _ => cases h
      | _ => exact h
    · rintro connector sql rfl
      cases sql with
      | text s => exact ⟨s, rfl⟩
      | _ => cases h
  · rintro ⟨hwritable, hraw⟩
    cases token with
    | test connector t =>
      cases t with
      | raw sql =>
        obtain ⟨s, rfl⟩ := hraw connector sql rfl
        rfl
      | _ => exact hwritable connector _ rfl
    | _ => rfl

instance (token : Token) : Decidable (Textual token) := decidable_of_iff _ isTextual_iff

/-- The failures of a member that is not textual. -/
inductive Unwritten (token : Token) : Failure → Prop
  /-- A condition written out is no text. -/
  | mistyped (connector : Connector) (sql : Value) (h : token = .test connector (.raw sql))
      (hsql : ∀ s, sql ≠ .text s) : Unwritten token .mistyped
  /-- A test cannot be written. -/
  | malformed (connector : Connector) (t : Test) (h : token = .test connector t)
      (ht : t.isWritable = false) : Unwritten token .malformed

theorem Unwritten.not_textual {token : Token} {failure : Failure} (h : Unwritten token failure) :
    ¬Textual token := by
  intro htext
  cases h with
  | mistyped connector sql htoken hsql =>
    obtain ⟨s, hs⟩ := htext.raw connector sql htoken
    exact hsql s hs
  | malformed connector t htoken ht =>
    exact absurd (ht.symm.trans (htext.isWritable connector t htoken)) Bool.false_ne_true

/-- How the pass over members ends that close no group too many: at something that is no text or
cannot be written, at something that is no condition, or with as many groups open as the members
leave open. -/
inductive Ends (p : Progress) (tokens : List Token) : Except Failure Progress → Prop
  | unwritten {failure : Failure} (h : ∃ token ∈ tokens, Unwritten token failure) :
      Ends p tokens (.error failure)
  | foreign (h : ∃ s, .foreign s ∈ tokens) : Ends p tokens (.error .foreignToken)
  | done (q : Progress)
      (h : closings tokens + q.groups.length = openings tokens + p.groups.length) :
      Ends p tokens (.ok q)

/-- A test leaves the groups as they are, or is not textual. -/
theorem ends_test (p : Progress) (connector : Connector) (t : Test) (b : Binder) :
    Ends p [.test connector t] ((step d clause p (.test connector t)).run b).1 := by
  have hdone : ∀ q : Progress, q.groups = p.groups → Ends p [.test connector t] (.ok q) := by
    intro q hq
    have hcount : closings [.test connector t] = 0 ∧ openings [.test connector t] = 0 := ⟨rfl, rfl⟩
    exact .done q (by rw [hq, hcount.1, hcount.2])
  have hmalformed : t.isWritable = false → Ends p [.test connector t] (.error .malformed) :=
    fun h => .unwritten ⟨_, List.mem_singleton_self _, .malformed connector t rfl h⟩
  rw [step, Attempt.run_bind]
  rcases hbody : (body d t).run b with ⟨outcome, b'⟩
  cases outcome with
  | error failure =>
    obtain ⟨rfl, h⟩ := failsOnly_body d t b failure (congrArg Prod.fst hbody)
    exact hmalformed h
  | ok v =>
    obtain ⟨rfl, rfl⟩ := run_body_eq_ok hbody
    dsimp only
    rw [Attempt.run_ofExcept]
    unfold addTest
    split
    · cases t with
      | compare column operator value => exact hdone _ rfl
      | oneOf column values negated => exact hdone _ rfl
      | raw sql =>
        cases sql with
        | text s => exact hdone _ rfl
        | _ =>
          exact .unwritten ⟨_, List.mem_singleton_self _, .mistyped connector _ rfl nofun⟩
    · cases hwrite : (written d b.counter t).write with
      | ok s => exact hdone _ rfl
      | error failure =>
        obtain ⟨rfl, h⟩ := Value.write_eq_error hwrite
        refine hmalformed (Bool.eq_false_iff.mpr fun htest => ?_)
        exact absurd (h.symm.trans (isWritable_written htest d b.counter)) Bool.false_ne_true

/-- A step that closes no group too many ends as the counts of its member say. -/
theorem ends_step {p : Progress} {token : Token}
    (h : closings [token] ≤ openings [token] + p.groups.length) (b : Binder) :
    Ends p [token] ((step d clause p token).run b).1 := by
  cases token with
  | test connector t => exact ends_test p connector t b
  | opening connector =>
    have hcount : closings [.opening connector] = 0 ∧ openings [.opening connector] = 1 :=
      ⟨rfl, rfl⟩
    refine .done (openGroup connector p) ?_
    simp only [openGroup, List.length_cons]
    omega
  | closing =>
    have hcount : closings [.closing] = 1 ∧ openings [.closing] = 0 := ⟨rfl, rfl⟩
    rw [step, closeGroup]
    cases hgroups : p.groups with
    | nil =>
      rw [hgroups, hcount.1, hcount.2] at h
      cases h
    | cons g outer =>
      dsimp only
      split <;> refine .done _ ?_ <;> simp only [hgroups, List.length_cons] <;> omega
  | foreign s => exact .foreign ⟨s, List.mem_singleton_self _⟩

/-- The pass over members that close no group too many ends as their counts say. -/
theorem ends_steps {p : Progress} {tokens : List Token}
    (h : ∀ front, front <+: tokens → closings front ≤ openings front + p.groups.length)
    (b : Binder) : Ends p tokens ((steps d clause p tokens).run b).1 := by
  induction tokens generalizing p b with
  | nil => exact .done p rfl
  | cons token rest ih =>
    have hopenings := openings_append [token]
    have hclosings := closings_append [token]
    simp only [List.singleton_append] at hopenings hclosings
    have hstep : Ends p [token] ((step d clause p token).run b).1 :=
      ends_step (h [token] ⟨rest, rfl⟩) b
    rw [steps, Attempt.run_bind]
    rcases hrun : (step d clause p token).run b with ⟨outcome, b'⟩
    rw [hrun] at hstep
    cases hstep with
    | unwritten hm =>
      obtain ⟨token', hmem, hfails⟩ := hm
      rw [List.mem_singleton.mp hmem] at hfails
      exact .unwritten ⟨token, List.mem_cons_self, hfails⟩
    | foreign hm =>
      obtain ⟨s, hmem⟩ := hm
      rw [← List.mem_singleton.mp hmem]
      exact .foreign ⟨s, List.mem_cons_self⟩
    | done q hq =>
      have hrest : ∀ front, front <+: rest →
          closings front ≤ openings front + q.groups.length := by
        intro front hfront
        have hall := h (token :: front) (List.cons_prefix_cons.mpr ⟨rfl, hfront⟩)
        rw [hopenings, hclosings] at hall
        omega
      dsimp only
      generalize hend : ((steps d clause q rest).run b').1 = outcome
      have hih := ih hrest b'
      rw [hend] at hih
      cases hih with
      | unwritten hm =>
        obtain ⟨token', hmem, hfails⟩ := hm
        exact .unwritten ⟨token', List.mem_cons_of_mem _ hmem, hfails⟩
      | foreign hm =>
        obtain ⟨s, hmem⟩ := hm
        exact .foreign ⟨s, List.mem_cons_of_mem _ hmem⟩
      | done r hr => exact .done r (by rw [hopenings, hclosings]; omega)

/-- How an expression or its clause ends over a list with `k` open groups: at something that is no
text, cannot be written or is no condition, at the open groups if there are any, or with a text if
there are none. -/
inductive Closes (clause : String) (tokens : List Token) (k : Nat) : Except Failure String → Prop
  | unwritten {failure : Failure} (h : ∃ token ∈ tokens, Unwritten token failure) :
      Closes clause tokens k (.error failure)
  | foreign (h : ∃ s, .foreign s ∈ tokens) : Closes clause tokens k (.error .foreignToken)
  | unclosed (h : k ≠ 0) : Closes clause tokens k (.error (.unclosedGroups clause k))
  | text (h : k = 0) (s : String) : Closes clause tokens k (.ok s)

/-- An expression renders only if every group is closed. -/
theorem closes_render {tokens : List Token} {k : Nat} (h : Balanced tokens k) (b : Binder) :
    Closes clause tokens k ((render d clause tokens).run b).1 := by
  have hends : Ends .start tokens ((steps d clause .start tokens).run b).1 :=
    ends_steps (fun front hfront => Nat.le_add_right_of_le (h.opened_first front hfront)) b
  rw [render, Attempt.run_bind]
  rcases hrun : (steps d clause .start tokens).run b with ⟨outcome, b'⟩
  rw [hrun] at hends
  cases hends with
  | unwritten hm => exact .unwritten hm
  | foreign hm => exact .foreign hm
  | done q hq =>
    have hlength : q.groups.length = k := by
      have hunmatched := h.unmatched
      have hzero : Progress.start.groups.length = 0 := rfl
      omega
    dsimp only
    split
    · rename_i hempty
      exact .text (by rw [← hlength, List.isEmpty_iff.mp hempty]; rfl) q.text
    · rename_i hne
      rw [hlength]
      refine .unclosed fun hk => hne ?_
      rw [List.isEmpty_iff, ← List.length_eq_zero_iff, hlength, hk]

theorem closes_renderClause {tokens : List Token} {k : Nat} (h : Balanced tokens k)
    (guarded : Bool) (b : Binder) :
    Closes clause tokens k ((renderClause d clause tokens guarded).run b).1 := by
  have hrender : Closes clause tokens k ((render d clause tokens).run b).1 := closes_render h b
  rw [renderClause, Attempt.run_bind]
  rcases hrun : (render d clause tokens).run b with ⟨outcome, b'⟩
  rw [hrun] at hrender
  cases hrender with
  | unwritten hm => exact .unwritten hm
  | foreign hm => exact .foreign hm
  | unclosed hk => exact .unclosed hk
  | text hk s =>
    dsimp only
    split
    · exact .text hk _
    · split <;> exact .text hk _

end Expression

end BoundSql
