import BoundSql.Proofs.Desk.Steady
import BoundSql.Proofs.Query.Families
import BoundSql.Proofs.Statement.Balance

/-!
# Open groups of a builder

A number of groups of the conditions on rows is open, and the conditions on groups have no groups.
Calls that build, render or run a query keep this number, whether they answer or fail: only the
markers of a group change it.
-/

namespace BoundSql

open Attempt

/-- So many groups of the conditions on rows are open; conditions on groups are tests only. -/
structure Query.Grouped (q : Query) (k : Nat) : Prop where
  /-- The conditions on rows are balanced but for these groups. -/
  wheres : Token.Balanced q.wheres k
  /-- They hold nothing but conditions. -/
  known : ∀ s, .foreign s ∉ q.wheres
  /-- The conditions on groups are tests. -/
  having : ∀ token ∈ q.having, token.IsTest

namespace ConditionCall

/-- A comparison is one. -/
theorem comparison_eq_ok {column : Value} {operator value : Option Value} {t : Test}
    (h : comparison column operator value = .ok t) :
    ∃ operator value, t = .compare column operator value := by
  rcases operator with _ | operator
  · cases h
  rcases value with _ | value
  · cases h
    exact ⟨_, _, rfl⟩
  · obtain ⟨_, _, h⟩ := Failure.bind_eq_ok h
    cases h
    exact ⟨_, _, rfl⟩

section Tokens

variable {R : Token → Prop}
  (hcompare : ∀ connector column operator value,
    R (.test connector (.compare column operator value)))
include hcompare

/-- What holds of all comparisons holds of the equalities of a map. -/
theorem forall_equalities (connector : Connector) (entries : List (Value × Value)) :
    ∀ token ∈ (equalities connector entries).1, R token := by
  induction entries generalizing connector with
  | nil => exact List.forall_mem_nil _
  | cons entry rest ih =>
    rw [equalities]
    split
    · exact List.forall_mem_nil _
    · exact List.forall_mem_cons.mpr ⟨hcompare _ _ _ _, ih .and⟩

variable
  (hmembership : ∀ connector column values negated,
    R (.test connector (.membership column values negated)))
  (hraw : ∀ connector sql, R (.test connector (.raw sql)))
include hmembership hraw

/-- What holds of comparisons, of membership tests and of conditions written out holds of the test
of a call, -/
theorem of_test {call : ConditionCall} {connector : Connector} {t : Test}
    (h : call.test = .ok (connector, t)) : R (.test connector t) := by
  cases call with
  | compare column operator value given =>
    obtain ⟨_, _, h⟩ := Failure.bind_eq_ok h
    obtain ⟨_, hcomparison, h⟩ := Failure.bind_eq_ok h
    cases h
    obtain ⟨_, _, rfl⟩ := comparison_eq_ok hcomparison
    exact hcompare _ _ _ _
  | oneOf column values given negated =>
    rw [test] at h
    split at h
    · cases h
    · obtain ⟨_, _, h⟩ := Failure.bind_eq_ok h
      cases h
      exact hmembership _ _ _ _
  | isNull column given negated =>
    obtain ⟨_, _, h⟩ := Failure.bind_eq_ok h
    obtain ⟨_, _, h⟩ := Failure.bind_eq_ok h
    cases h
    exact hraw _ _
  | like column pattern given negated =>
    obtain ⟨_, _, h⟩ := Failure.bind_eq_ok h
    cases h
    exact hcompare _ _ _ _
  | raw sql given =>
    obtain ⟨_, _, h⟩ := Failure.bind_eq_ok h
    cases h
    exact hraw _ _

/-- and of all that a call adds. -/
theorem forall_added (call : ConditionCall) : ∀ token ∈ call.added.1, R token := by
  unfold added
  split
  · split
    · exact forall_equalities hcompare _ _
    · exact List.forall_mem_nil _
  · split
    · rename_i htest
      exact List.forall_mem_singleton.mpr (of_test hcompare hmembership hraw htest)
    · exact List.forall_mem_nil _

end Tokens

/-- Conditions are added as tests, never as markers. -/
theorem isTest_added (call : ConditionCall) : ∀ token ∈ call.added.1, token.IsTest :=
  forall_added (fun _ _ _ _ => ⟨_, _, rfl⟩) (fun _ _ _ _ => ⟨_, _, rfl⟩) (fun _ _ => ⟨_, _, rfl⟩)
    call

end ConditionCall

namespace Query

variable {k : Nat}

theorem grouped_fresh : fresh.Grouped 0 :=
  ⟨Token.balanced_nil, fun _ => List.not_mem_nil, fun _ hm => absurd hm List.not_mem_nil⟩

/-- A change of other parts of the query leaves its groups as they are. -/
theorem Grouped.of_lists {q q' : Query} (h : q.Grouped k) (hwheres : q'.wheres = q.wheres)
    (hhaving : q'.having = q.having) : q'.Grouped k :=
  ⟨hwheres ▸ h.wheres, hwheres ▸ h.known, hhaving ▸ h.having⟩

/-- Tests among the conditions on rows leave the groups as they are. -/
theorem Grouped.append_tests {q : Query} (h : q.Grouped k) {tests : List Token}
    (ht : ∀ token ∈ tests, token.IsTest) : Grouped { q with wheres := q.wheres ++ tests } k := by
  refine ⟨h.wheres.append_tests ht, fun s hm => ?_, h.having⟩
  rcases List.mem_append.mp hm with hm | hm
  · exact h.known s hm
  · obtain ⟨connector, t, htest⟩ := ht _ hm
    cases htest

/-- A test among the conditions on groups leaves the groups as they are. -/
theorem Grouped.concat_having {q : Query} (h : q.Grouped k) (connector : Connector) (t : Test) :
    Grouped { q with having := q.having ++ [.test connector t] } k := by
  refine ⟨h.wheres, h.known, fun token hm => ?_⟩
  rcases List.mem_append.mp hm with hm | hm
  · exact h.having token hm
  · rw [List.mem_singleton.mp hm]
    exact ⟨connector, t, rfl⟩

/-- The opening of a group opens one more. -/
theorem Grouped.concat_opening {q : Query} (h : q.Grouped k) (connector : Connector) :
    Grouped { q with wheres := q.wheres ++ [.opening connector] } (k + 1) := by
  refine ⟨h.wheres.concat_opening connector, fun s hm => ?_, h.having⟩
  rcases List.mem_append.mp hm with hm | hm
  · exact h.known s hm
  · cases List.mem_singleton.mp hm

/-- The closing of a group leaves one less. -/
theorem Grouped.concat_closing {q : Query} (h : q.Grouped (k + 1)) :
    Grouped { q with wheres := q.wheres ++ [.closing] } k := by
  refine ⟨h.wheres.concat_closing, fun s hm => ?_, h.having⟩
  rcases List.mem_append.mp hm with hm | hm
  · exact h.known s hm
  · cases List.mem_singleton.mp hm

/-- A change of one family's part leaves the groups as they are, unless it is the part of the
conditions. -/
theorem Grouped.of_onlyIn {q q' : Query} (h : q.Grouped k) {family : Clause.Family}
    (hq : OnlyIn family q q') (hwheres : family ≠ .wheres) (hhaving : family ≠ .having) :
    q'.Grouped k := by
  rw [hq]
  cases family with
  | wheres => exact absurd rfl hwheres
  | having => exact absurd rfl hhaving
  | _ => exact h.of_lists rfl rfl

end Query

/-- A call that builds a query keeps its groups. -/
theorem Clause.keeps_apply {k : Nat} (call : Clause) : Keeps (Query.Grouped · k) call.apply := by
  cases call with
  | having column operator value connector =>
    exact Keeps.bind (.ofExcept _) fun _ => .update fun _ h => h.concat_having _ _
  | condition call =>
    exact Keeps.bind (.update fun _ h => h.append_tests call.isTest_added) fun _ => .ofExcept _
  | _ => exact fun q h => h.of_onlyIn (onlyIn_apply _ q) nofun nofun

namespace Builder

variable {k : Nat}

theorem grouped_fresh (d : Dialect) : (fresh d).query.Grouped 0 := Query.grouped_fresh

/-- What a builder is restored to leaves its groups as they are. -/
theorem grouped_restore {b : Builder} (h : b.query.Grouped k) (s : Snapshot) :
    (b.restore s).query.Grouped k := h.of_lists rfl rfl

/-- What holds of a builder while `k` group calls on it are under way. -/
structure Balanced (b : Builder) (k : Nat) : Prop where
  /-- In its conditions on rows no prefix closes more groups than it opens, and `k` are open. -/
  wheres : Token.Balanced b.query.wheres k
  /-- Its conditions on groups are tests, none of them a marker. -/
  having : ∀ token ∈ b.query.having, token.IsTest
  /-- Without group calls it is never refused for its groups. -/
  closed : k = 0 → ∀ failure, (compile.run b).1 = .error failure → failure.isImbalance = false
  /-- During group calls it is always refused, for the open groups, for what is no text or for what
  cannot be written. -/
  unclosed : k ≠ 0 → b.query.WritesWheres →
    ∃ failure, (compile.run b).1 = .error failure ∧ b.query.OpenFailure k failure
  /-- So it is refused for the open groups where everything is a text or can be written. -/
  refused : k ≠ 0 → b.query.WritesWheres → b.query.Named →
    (b.query.kind = .select → Query.AllTexts b.query.columns) →
    (b.query.kind = .update → ∀ key ∈ Entries.keys b.query.update, key.isWritable = true) →
    (∀ token ∈ b.query.wheres, Expression.Textual token) →
    (compile.run b).1 = .error (.unclosedGroups "WHERE" k)

/-- Open groups are what a builder is out of balance by. -/
theorem balanced_of_grouped {b : Builder} (h : b.query.Grouped k) : b.Balanced k := by
  have hunclosed : k ≠ 0 → b.query.WritesWheres →
      ∃ failure, (compile.run b).1 = .error failure ∧ b.query.OpenFailure k failure := by
    intro hk hwrites
    obtain ⟨failure, hrender, hopen⟩ :=
      Query.fails_render (d := b.dialect) hwrites h.wheres hk h.known b.binder.reset
    exact ⟨failure, compile_eq_error.mpr hrender, hopen⟩
  refine ⟨h.wheres, h.having, ?_, hunclosed, ?_⟩
  · intro hk failure hcompile
    subst hk
    have hhaving : Token.Balanced b.query.having 0 := Token.balanced_of_tests h.having
    exact Query.failsOnly_render h.wheres hhaving _ failure (compile_eq_error.mp hcompile)
  · intro hk hwrites hnamed hcolumns hentries hwheres
    obtain ⟨failure, hcompile, hopen⟩ := hunclosed hk hwrites
    rw [hcompile, hopen.eq_unclosedGroups hnamed hcolumns hentries hwheres]

end Builder

end BoundSql
