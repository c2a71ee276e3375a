import BoundSql.Proofs.Builder.Groups

/-!
# Well-formed queries

Whatever arguments a query was built with, its joins are of one of three kinds, its membership tests
have values to test for, its conditions on groups are comparisons, and its ordering expressions have
a direction. Its bounds are natural numbers by their type. Calls that build, render or run a query
keep it so, whether they answer or fail.
-/

namespace BoundSql

open Attempt

/-- A token that is no membership test without values. -/
def Token.Populated (token : Token) : Prop :=
  ∀ connector column values negated, token = .test connector (.oneOf column values negated) →
    values ≠ []

/-- A token that is a comparison. -/
def Token.IsComparison (token : Token) : Prop :=
  ∃ connector column operator value, token = .test connector (.compare column operator value)

namespace Query

/-- An ordering expression that ends with a direction. -/
def Directed (entry : String) : Prop :=
  ∃ expression, entry = expression ++ " ASC" ∨ entry = expression ++ " DESC"

/-- What holds of the lists of every query that calls have built. -/
structure WellFormed (q : Query) : Prop where
  /-- Tables are joined in one of three ways. -/
  joins : ∀ join ∈ q.joins, join.kind.name ∈ ["INNER", "LEFT", "RIGHT"]
  /-- The membership tests among the conditions on rows have values. -/
  wheres : ∀ token ∈ q.wheres, token.Populated
  /-- The conditions on groups are comparisons. -/
  having : ∀ token ∈ q.having, token.IsComparison
  /-- Every ordering expression has a direction. -/
  orderBy : ∀ entry ∈ q.orderBy, Directed entry

end Query

/-- A join is of one of three kinds. -/
theorem JoinKind.name_mem (kind : JoinKind) : kind.name ∈ ["INNER", "LEFT", "RIGHT"] := by
  cases kind <;> decide

namespace Token

/-- A membership test without values degrades to a condition that is written out. -/
theorem populated_membership (connector : Connector) (column : Value) (values : List Value)
    (negated : Value) : (test connector (.membership column values negated)).Populated := by
  rintro connector' column' values' negated' h
  rw [Test.membership] at h
  split at h
  · cases h
  · rename_i hne
    cases h
    exact fun hnil => hne (List.isEmpty_iff.mpr hnil)

/-- A marker has no list to be empty. -/
theorem populated_marker {token : Token} (h : token.IsMarker) : token.Populated := by
  rintro connector column values negated rfl
  cases h

/-- Conditions are added with the values that they are to be tested for. -/
theorem populated_added (call : ConditionCall) : ∀ token ∈ call.added.1, token.Populated :=
  ConditionCall.forall_added (fun _ _ _ _ => nofun) populated_membership (fun _ _ => nofun) call

end Token

namespace Query

theorem wellFormed_fresh : fresh.WellFormed :=
  ⟨List.forall_mem_nil _, List.forall_mem_nil _, List.forall_mem_nil _, List.forall_mem_nil _⟩

/-- An ordering expression is written with its direction. -/
theorem directed_ordering {expression : Value} {direction : Option Value} {entry : String}
    (h : ordering expression direction = .ok entry) : Directed entry := by
  unfold ordering at h
  split at h
  · cases hwrite : expression.write with
    | error failure =>
      rw [hwrite] at h
      cases h
    | ok text =>
      rw [hwrite] at h
      cases h
      refine ⟨text, ?_⟩
      split
      · exact .inr (String.append_assoc ..)
      · exact .inl (String.append_assoc ..)
  · cases h

namespace WellFormed

variable {q q' : Query}

/-- A change of other parts leaves a query well formed; joins are so by their type. -/
theorem of_lists (h : q.WellFormed) (hwheres : q'.wheres = q.wheres)
    (hhaving : q'.having = q.having) (horderBy : q'.orderBy = q.orderBy) : q'.WellFormed :=
  ⟨fun join _ => join.kind.name_mem, hwheres ▸ h.wheres, hhaving ▸ h.having,
    horderBy ▸ h.orderBy⟩

/-- Conditions whose lists are not empty may be added. -/
theorem append_wheres (h : q.WellFormed) {tokens : List Token}
    (htokens : ∀ token ∈ tokens, token.Populated) :
    WellFormed { q with wheres := q.wheres ++ tokens } :=
  { h with wheres := List.forall_mem_append.mpr ⟨h.wheres, htokens⟩ }

/-- A comparison may be added to the conditions on groups. -/
theorem concat_having (h : q.WellFormed) {token : Token} (htoken : token.IsComparison) :
    WellFormed { q with having := q.having ++ [token] } :=
  { h with
    having := List.forall_mem_append.mpr ⟨h.having, List.forall_mem_singleton.mpr htoken⟩ }

/-- An ordering with a direction may be added. -/
theorem concat_orderBy (h : q.WellFormed) {entry : String} (hentry : Directed entry) :
    WellFormed { q with orderBy := q.orderBy ++ [entry] } :=
  { h with
    orderBy := List.forall_mem_append.mpr ⟨h.orderBy, List.forall_mem_singleton.mpr hentry⟩ }

/-- A change of one family's part leaves a query well formed, unless it is the part of the
conditions or of the ordering. -/
theorem of_onlyIn (h : q.WellFormed) {family : Clause.Family} (hq : OnlyIn family q q')
    (hwheres : family ≠ .wheres) (hhaving : family ≠ .having) (horderBy : family ≠ .orderBy) :
    q'.WellFormed := by
  rw [hq]
  cases family with
  | wheres => exact absurd rfl hwheres
  | having => exact absurd rfl hhaving
  | orderBy => exact absurd rfl horderBy
  | _ => exact h.of_lists rfl rfl rfl

end WellFormed

end Query

/-- A call that builds a query keeps it well formed. -/
theorem Clause.wellFormed_apply (call : Clause) : Keeps Query.WellFormed call.apply := by
  cases call with
  | having column operator value connector =>
    exact Keeps.bind (.ofExcept _) fun _ => .update fun _ h => h.concat_having ⟨_, _, _, _, rfl⟩
  | orderBy expression direction =>
    rw [apply]
    cases hentry : Query.ordering expression direction with
    | error failure => exact .fail failure
    | ok entry => exact .update fun _ h => h.concat_orderBy (Query.directed_ordering hentry)
  | condition call =>
    exact Keeps.bind (.update fun _ h => h.append_wheres (Token.populated_added call)) fun _ =>
      .ofExcept _
  | _ =>
    exact fun q h => h.of_onlyIn (onlyIn_apply _ q) Family.noConfusion Family.noConfusion
      Family.noConfusion

namespace Builder

/-- A builder whose query is well formed. -/
abbrev WellFormed (b : Builder) : Prop := b.query.WellFormed

/-- Compiling keeps a builder well formed. -/
theorem wellFormed_compile : Keeps WellFormed compile := by
  intro b h
  rw [run_compile_same]
  exact h

theorem wellFormed_compileCount : Keeps WellFormed compileCount := by
  intro b h
  rw [run_compileCount_same]
  exact h

/-- A builder that is restored has the ordering that the snapshot holds. -/
theorem WellFormed.restore {b : Builder} (h : b.WellFormed) {s : Snapshot}
    (hs : ∀ entry ∈ s.orderBy, Query.Directed entry) : (b.restore s).WellFormed :=
  ⟨h.joins, h.wheres, h.having, hs⟩

end Builder

end BoundSql
