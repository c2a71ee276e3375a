import BoundSql.Proofs.Builder.WellFormed
import BoundSql.Proofs.Statement.Guard
import BoundSql.Proofs.Statement.Select

/-!
# Value lists and bounds in a statement

A membership test that has values stands in every statement with conditions as a list of
placeholders that is not empty. The bounds of a select stand behind the select without bounds, each
as its keyword and a number in decimal digits; other statements and counts have no bounds.
-/

namespace BoundSql

open Attempt

/-- The text is the number in decimal digits. -/
structure Text.IsDecimal (n : Nat) (text : String) : Prop where
  /-- There are digits, -/
  nonempty : text ≠ ""
  /-- nothing but digits, -/
  digits : ∀ c ∈ text.toList, c.isDigit = true
  /-- and they are those of the number. -/
  value : Nat.ofDigitChars 10 text.toList 0 = n

/-- A number is written in decimal. -/
theorem Text.isDecimal_toString (n : Nat) : IsDecimal n (toString n) := by
  rw [Nat.toString_eq_ofList_toDigits]
  refine ⟨fun hempty => ?_, fun c hc => ?_, ?_⟩
  · have hdigits := congrArg String.toList hempty
    rw [String.toList_ofList] at hdigits
    exact Nat.toDigits_ne_nil hdigits
  · rw [String.toList_ofList] at hc
    exact Nat.isDigit_of_mem_toDigits (by decide) (by decide) hc
  · rw [String.toList_ofList]
    exact Nat.ofDigitChars_ten_toDigits

namespace Query

/-- The text of a bound: nothing without one, and its keyword and the number otherwise. -/
def IsBound (keyword : String) : Option Nat → String → Prop
  | none, text => text = ""
  | some n, text => ∃ number, Text.IsDecimal n number ∧ text = " " ++ keyword ++ " " ++ number

/-- The query without bounds. -/
def unbounded (q : Query) : Query := { q with limit := none, offset := none }

/-- A bound that can be written is written as its keyword and the number. -/
theorem isBound_of_boundPart {keyword : String} {bound : Option Nat} {parts : List String}
    (h : boundPart keyword bound = .ok parts) : IsBound keyword bound (spaced parts) := by
  cases bound with
  | none =>
    cases h
    rfl
  | some n =>
    dsimp only [boundPart] at h
    split at h
    · cases h
      refine ⟨toString n, Text.isDecimal_toString n, ?_⟩
      simp only [spaced, String.append_empty, String.append_assoc]
    · cases h

variable {d : Dialect} {q : Query} {b b' : Binder} {sql : String}

/-- The bounds stand behind the ordering. -/
theorem tailParts_eq_ok {tail : List String} (h : q.tailParts = .ok tail) :
    ∃ front limit offset, q.unbounded.tailParts = .ok front ∧ tail = front ++ limit ++ offset ∧
      boundPart "LIMIT" q.limit = .ok limit ∧ boundPart "OFFSET" q.offset = .ok offset := by
  unfold tailParts at h
  cases hlimit : boundPart "LIMIT" q.limit with
  | error failure =>
    rw [hlimit] at h
    cases h
  | ok limit =>
    cases hoffset : boundPart "OFFSET" q.offset with
    | error failure =>
      rw [hlimit, hoffset] at h
      cases h
    | ok offset =>
      rw [hlimit, hoffset] at h
      cases h
      have hfront : q.unbounded.tailParts =
          .ok ((if q.orderBy.isEmpty then [] else ["ORDER BY " ++ commas q.orderBy]) ++ [] ++ []) :=
        rfl
      rw [List.append_nil, List.append_nil] at hfront
      exact ⟨_, limit, offset, hfront, rfl, rfl, rfl⟩

/-- The body of a select holds the texts of its conditions on rows. -/
theorem inOrder_renderBody {body : String} (h : (renderBody d q).run b = (.ok body, b')) :
    Expression.InOrder (Expression.texts d b.counter q.wheres) body := by
  obtain ⟨table, _, hrest⟩ := run_ofExcept_bind_eq_ok h
  obtain ⟨wheres, mid, hwheres, hrest⟩ := run_bind_eq_ok hrest
  obtain ⟨groups, _, hrest⟩ := run_ofExcept_bind_eq_ok hrest
  obtain ⟨having, _, _, hrest⟩ := run_bind_eq_ok hrest
  cases hrest
  have hholds := Expression.inOrder_renderClause hwheres
  have hpart : Expression.InOrder (Expression.texts d b.counter q.wheres)
      (spaced (optionalPart wheres)) := by
    unfold optionalPart
    split
    · rename_i hempty
      exact (hempty ▸ hholds).of_empty _
    · exact (hholds.append_left " ").append_right _
  simp only [spaced_append]
  exact ((hpart.append_left _).append_right _).append_right _

/-- The count of a select has its body in it. -/
theorem run_renderCount_eq_ok (h : (renderCount d q).run b = (.ok sql, b')) :
    ∃ before body after, (renderBody d q).run b = (.ok body, b') ∧
      sql = before ++ body ++ after := by
  unfold renderCount at h
  split at h
  · obtain ⟨inner, mid, hinner, hrest⟩ := run_bind_eq_ok h
    cases hrest
    obtain ⟨texts, body, tail, _, _, hbody, htail, rfl⟩ := run_renderSelect_eq_ok hinner
    cases htail
    refine ⟨"SELECT " ++ countColumn ++ " FROM (" ++ ("SELECT " ++ commas texts), body,
      ") AS _sub", hbody, ?_⟩
    rw [selectText_nil]
    simp only [String.append_assoc]
  · obtain ⟨texts, body, tail, _, _, hbody, _, rfl⟩ := run_renderSelect_eq_ok h
    exact ⟨_, body, _, hbody, rfl⟩

/-- A statement with conditions on rows holds their texts. -/
theorem inOrder_render (hkind : q.kind ≠ .insert) (h : (q.render d).run b = (.ok sql, b')) :
    ∃ c, Expression.InOrder (Expression.texts d c q.wheres) sql := by
  have hmutation : q.kind = .update ∨ q.kind = .delete →
      ∃ c, Expression.InOrder (Expression.texts d c q.wheres) sql := by
    intro hkind
    obtain ⟨expression, hrender, rfl⟩ := render_eq_guarded hkind h
    have hholds := Expression.inOrder_guarded (Expression.inOrder_render hrender)
    exact ⟨_, hholds.append_left _⟩
  obtain ⟨_, _, hrest⟩ := run_ofExcept_bind_eq_ok h
  cases hq : q.kind with
  | select =>
    rw [hq] at hrest
    obtain ⟨texts, body, tail, _, _, hbody, _, rfl⟩ := run_renderSelect_eq_ok hrest
    exact ⟨_, ((inOrder_renderBody hbody).append_left _).append_right _⟩
  | insert => exact absurd hq hkind
  | update => exact hmutation (.inl hq)
  | delete => exact hmutation (.inr hq)
  | unset =>
    rw [hq] at hrest
    cases hrest
  | unknown name =>
    rw [hq] at hrest
    cases hrest

/-- Only a select has bounds. -/
theorem render_unbounded (hkind : q.kind ≠ .select) : q.unbounded.render d = q.render d := by
  unfold render
  refine congrArg _ (funext fun _ => ?_)
  dsimp only [unbounded]
  cases hq : q.kind with
  | select => exact absurd hq hkind
  | _ => rfl

end Query

namespace Builder

/-- The builder whose query has no bounds. -/
def unbounded (b : Builder) : Builder := { b with query := b.query.unbounded }

/-- What the statements of a builder look like where it has value lists and bounds. -/
structure WellWritten (b : Builder) : Prop where
  /-- Wherever it has conditions on rows, each membership test has values, and stands in the
  statement with the placeholders of as many names issued in a row. -/
  lists : ∀ c, (compile.run b).1 = .ok c ∧ b.query.kind ≠ .insert ∨ (compileCount.run b).1 = .ok c →
    ∀ connector column values negated, .test connector (.oneOf column values negated) ∈
        b.query.wheres →
      values ≠ [] ∧ ∃ (k : Nat) (before after : String),
        c.sql = before ++ (column.plain ++ " " ++ (if negated.truthy then "NOT IN" else "IN") ++
          " (" ++ String.intercalate "," (Expression.placeholders b.dialect k values.length) ++
          ")") ++ after
  /-- A select stands in front of its bounds, of which nothing but the numbers is written. -/
  bounds : ∀ c, (compile.run b).1 = .ok c → b.query.kind = .select →
    ∃ (whole : Compiled) (limit offset : String), (compile.run b.unbounded).1 = .ok whole ∧
      c.sql = whole.sql ++ limit ++ offset ∧ Query.IsBound "LIMIT" b.query.limit limit ∧
      Query.IsBound "OFFSET" b.query.offset offset
  /-- Other statements have no bounds, -/
  others : b.query.kind ≠ .select → (compile.run b).1 = (compile.run b.unbounded).1
  /-- and neither have counts. -/
  counts : (compileCount.run b).1 = (compileCount.run b.unbounded).1

variable {b b' : Builder} {c : Compiled}

/-- A statement with conditions on rows holds their texts. -/
theorem inOrder_wheres (h : (compile.run b).1 = .ok c ∧ b.query.kind ≠ .insert ∨
      (compileCount.run b).1 = .ok c) :
    ∃ k, Expression.InOrder (Expression.texts b.dialect k b.query.wheres) c.sql := by
  rcases h with ⟨h, hkind⟩ | h
  · have hrun : (renderWith (b.query.render b.dialect)).run b = (.ok c, (compile.run b).2) :=
      Prod.ext h rfl
    exact Query.inOrder_render hkind (run_renderWith_eq_ok hrun).1
  · have hrun : compileCount.run b = (.ok c, (compileCount.run b).2) := Prod.ext h rfl
    obtain ⟨_, mid, hrequire, hrest⟩ := run_bind_eq_ok hrun
    have hsame := run_requireKind .compileCount b
    rw [hrequire] at hsame
    cases hsame
    obtain ⟨before, body, after, hbody, hsql⟩ :=
      Query.run_renderCount_eq_ok (run_renderWith_eq_ok hrest).1
    rw [hsql]
    exact ⟨_, ((Query.inOrder_renderBody hbody).append_left _).append_right _⟩

/-- A select that renders is the select without bounds, with the bounds behind it. -/
theorem exists_bounds (h : (compile.run b).1 = .ok c) (hkind : b.query.kind = .select) :
    ∃ (whole : Compiled) (limit offset : String), (compile.run b.unbounded).1 = .ok whole ∧
      c.sql = whole.sql ++ limit ++ offset ∧ Query.IsBound "LIMIT" b.query.limit limit ∧
      Query.IsBound "OFFSET" b.query.offset offset := by
  have hrun : (renderWith (b.query.render b.dialect)).run b = (.ok c, (compile.run b).2) :=
    Prod.ext h rfl
  obtain ⟨hrender, -⟩ := run_renderWith_eq_ok hrun
  obtain ⟨_, htable, hselect⟩ := run_ofExcept_bind_eq_ok hrender
  rw [hkind] at hselect
  obtain ⟨texts, body, tail, _, hcolumns, hbody, htail, hsql⟩ :=
    Query.run_renderSelect_eq_ok hselect
  obtain ⟨front, limit, offset, hfront, rfl, hlimit, hoffset⟩ := Query.tailParts_eq_ok htail
  have hwhole := compile_of_body (b := b.unbounded) hkind htable hcolumns hbody
  rw [unbounded, hfront] at hwhole
  refine ⟨_, Query.spaced limit, Query.spaced offset, hwhole, ?_,
    Query.isBound_of_boundPart hlimit, Query.isBound_of_boundPart hoffset⟩
  rw [hsql, Query.selectText, Query.spaced_append, Query.spaced_append]
  simp only [Query.selectText, String.append_assoc]

/-- Bounds have no part in a statement that is no select. -/
theorem compile_unbounded (hkind : b.query.kind ≠ .select) :
    (compile.run b.unbounded).1 = (compile.run b).1 := by
  have hwhole : compile.run b.unbounded =
      (renderWith (b.query.unbounded.render b.dialect)).run b.unbounded := rfl
  have hreset : b.unbounded.binder.reset = b.binder.reset := rfl
  rw [hwhole, Query.render_unbounded hkind]
  exact (renderWith_congr _ hreset rfl).1

/-- Bounds have no part in a count. -/
theorem compileCount_unbounded (b : Builder) :
    (compileCount.run b.unbounded).1 = (compileCount.run b).1 := by
  by_cases hkind : b.query.kind = .select
  · have hwhole : compileCount.run b.unbounded =
        (renderWith (b.query.renderCount b.dialect)).run b.unbounded := run_compileCount hkind
    have hreset : b.unbounded.binder.reset = b.binder.reset := rfl
    rw [hwhole, run_compileCount hkind]
    exact (renderWith_congr _ hreset rfl).1
  · have hkind' : b.unbounded.query.kind ≠ .select := hkind
    rw [compileCount, run_bind, run_bind, run_requireKind_of_ne hkind,
      run_requireKind_of_ne hkind']
    rfl

/-- A builder whose membership tests have values writes them, and its bounds, well. -/
theorem wellWritten_of_populated (h : ∀ token ∈ b.query.wheres, token.Populated) :
    b.WellWritten where
  lists c hc connector column values negated hm := by
    obtain ⟨k, hholds⟩ := inOrder_wheres hc
    obtain ⟨k', htext⟩ := Expression.mem_texts hm k (d := b.dialect)
    exact ⟨h _ hm _ _ _ _ rfl, k', hholds.occurs htext⟩
  bounds _ hc hkind := exists_bounds hc hkind
  others hkind := (compile_unbounded hkind).symm
  counts := (compileCount_unbounded b).symm

end Builder

end BoundSql
