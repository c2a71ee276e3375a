import BoundSql.Builder
import BoundSql.Proofs.Condition.Refusal
import BoundSql.Proofs.Statement.Balance
import Mathlib.Algebra.Group.Nat.Defs

/-!
# Queries that are refused

Whether a query renders, and what it is refused for where it does not, is read off its table, its
kind, the data of its kind, the markers of its conditions and its bounds. Of several reasons that
apply, the first one in this order counts. The dialect and the binder have no part in it.
-/

namespace BoundSql

open Attempt Token

/-- The columns of the data of an insert. -/
def InsertData.columns : InsertData → List Value
  | single row => Entries.keys row
  | rows columns _ => columns

namespace Query

variable {d : Dialect} {q : Query} {failure : Failure}

/-- What a query holds to be written as it is are texts: the table if there is one, the columns, and
the conditions written out; its label, the columns it sets and its conditions, which are tests and
markers, can be written. -/
structure Textual (q : Query) : Prop where
  /-- The table is a text, if there is one. -/
  table : q.table = .null ∨ ∃ s, q.table = .text s
  /-- The label can be written. -/
  label : q.label.isWritable = true
  /-- The columns of a select are texts. -/
  columns : AllTexts q.columns
  /-- The grouping columns are texts. -/
  groupBy : AllTexts q.groupBy
  /-- The columns of an insert are texts. -/
  insert : ∀ data, q.insert = some data → AllTexts data.columns
  /-- The columns of an update can be written. -/
  update : ∀ entry ∈ q.update, entry.1.isWritable = true
  /-- The conditions on rows can be written. -/
  wheres : Expression.Writable q.wheres
  /-- The conditions on groups can be written. -/
  having : Expression.Writable q.having

/-- No table is set, or one without a name. -/
def Tableless (q : Query) : Prop := q.table = .null ∨ q.table = .text ""

/-- There is nothing to insert: no data, an empty row, or declared columns of which there are none
or under which there are no rows. -/
inductive Dataless : Option InsertData → Prop
  | absent : Dataless none
  | row : Dataless (some (.single []))
  | columns (rows : List (List Value)) : Dataless (some (.rows [] rows))
  | rows (columns : List Value) : Dataless (some (.rows columns []))

/-- A bound has more digits than a numeral may have. -/
def Overlong (bound : Option Nat) : Prop :=
  ∃ n, bound = some n ∧ Text.maxDigits < (toString n).length

/-- What a query is refused for. Each reason counts only where none of those before it applies. -/
inductive Refused (q : Query) : Failure → Prop
  /-- There is no table. -/
  | table (h : q.Tableless) : Refused q .noTable
  /-- There is no kind of statement, or an unknown one. -/
  | kind (htable : ¬q.Tableless) (h : q.kind = .unset ∨ ∃ name, q.kind = .unknown name) :
    Refused q (.unknownKind q.kind)
  /-- An insert has no data; its conditions have no part in it. -/
  | insert (htable : ¬q.Tableless) (hkind : q.kind = .insert) (h : Dataless q.insert) :
    Refused q (.noData .insert)
  /-- An update has no data. -/
  | update (htable : ¬q.Tableless) (hkind : q.kind = .update) (h : q.update = []) :
    Refused q (.noData .update)
  /-- The conditions on rows are not balanced. -/
  | wheres {failure : Failure} (htable : ¬q.Tableless)
    (hkind : q.kind = .select ∨ q.kind = .delete ∨ q.kind = .update ∧ q.update ≠ [])
    (h : Expression.Unbalanced "WHERE" q.wheres failure) : Refused q failure
  /-- The conditions on groups are not balanced. -/
  | having {failure : Failure} (htable : ¬q.Tableless) (hkind : q.kind = .select)
    (hwheres : Balanced q.wheres 0) (h : Expression.Unbalanced "HAVING" q.having failure) :
    Refused q failure
  /-- A bound of a select has too many digits. -/
  | bound (htable : ¬q.Tableless) (hkind : q.kind = .select) (hwheres : Balanced q.wheres 0)
    (hhaving : Balanced q.having 0) (h : Overlong q.limit ∨ Overlong q.offset) :
    Refused q .malformed

/-! ### The parts of a statement -/

/-- The table and its label can be written. -/
theorem Textual.named (h : q.Textual) : q.Named := by
  refine ⟨?_, h.label⟩
  rcases h.table with hnull | ⟨s, hs⟩
  · rw [hnull]
    rfl
  · rw [hs, Value.isWritable_text]

/-- A table is required exactly where there is none. -/
theorem requireTable_eq_error_iff (h : q.Textual) : q.requireTable = .error failure ↔
    failure = .noTable ∧ q.Tableless := by
  rcases h.table with hnull | ⟨s, hs⟩
  · simp [requireTable, Tableless, hnull, Value.truthy, eq_comm]
  · by_cases hempty : s = ""
    · simp [requireTable, Tableless, hs, hempty, Value.truthy, eq_comm]
    · rw [h.named.requireTable (by simp [hs, hempty, Value.truthy])]
      simp [Tableless, hs, hempty]

/-- A table that is there is not missed. -/
theorem failsExactly_never_requireTable (h : q.Textual) (htable : ¬q.Tableless) :
    FailsExactly Never (ofExcept q.requireTable : Attempt Binder Unit) := by
  refine (FailsExactly.ofExcept q.requireTable).congr fun failure => ?_
  rw [requireTable_eq_error_iff h]
  exact iff_of_false (fun hfailure => htable hfailure.2) id

/-- Columns that are texts pass. -/
theorem failsExactly_never_columnTexts {columns : List Value} (h : AllTexts columns) :
    FailsExactly Never (ofExcept (columnTexts columns) : Attempt Binder (List String)) := by
  obtain ⟨texts, htexts⟩ := h.columnTexts
  rw [htexts]
  exact .pure texts

/-- A placeholder does not fail. -/
theorem failsExactly_never_placeholder (v : Value) :
    FailsExactly Never (Expression.placeholder d v) :=
  fun _ _ => iff_of_false nofun id

/-- What can be written passes. -/
theorem failsExactly_never_write {v : Value} (h : v.isWritable = true) :
    FailsExactly Never (ofExcept v.write : Attempt Binder String) := by
  rw [Value.write_of_isWritable h]
  exact .pure v.plain

theorem failsExactly_never_renderSet {entry : Value × Value} (h : entry.1.isWritable = true) :
    FailsExactly Never (renderSet d entry) :=
  (failsExactly_never_write h).never_bind fun _ =>
    (failsExactly_never_placeholder entry.2).bind_never fun _ => .pure _

theorem failsExactly_never_renderRow (values : List Value) :
    FailsExactly Never (renderRow d values) :=
  (FailsExactly.forAll_never fun v _ => failsExactly_never_placeholder v).bind_never fun _ =>
    .pure _

theorem failsExactly_never_renderRows {columns : List Value} (hnamed : q.Named)
    (h : AllTexts columns) (rows : List (List Value)) :
    FailsExactly Never (renderRows d q columns rows) :=
  (FailsExactly.forAll_never fun values _ => failsExactly_never_renderRow values).never_bind
    fun _ => (failsExactly_never_write hnamed.table).never_bind fun _ =>
      (failsExactly_never_columnTexts h).bind_never fun _ => .pure _

/-- A bound cannot be written exactly if it has too many digits. -/
theorem boundPart_eq_error_iff (keyword : String) (bound : Option Nat) (failure : Failure) :
    boundPart keyword bound = .error failure ↔ failure = .malformed ∧ Overlong bound := by
  cases bound with
  | none => exact iff_of_false nofun fun h => nomatch h.2
  | some n =>
    have hlong : Overlong (some n) ↔ ¬(toString n).length ≤ Text.maxDigits := by
      rw [Nat.not_le]
      constructor
      · rintro ⟨n', hn, h⟩
        cases hn
        exact h
      · exact fun h => ⟨n, rfl, h⟩
    dsimp only [boundPart]
    split
    · rename_i hle
      exact iff_of_false nofun fun h => hlong.mp h.2 hle
    · rename_i hlt
      rw [Except.error.injEq, eq_comm, and_iff_left (hlong.mpr hlt)]

/-- The ordering of a select can always be written; its bounds are refused for their digits. -/
theorem tailParts_eq_error_iff :
    q.tailParts = .error failure ↔
      failure = .malformed ∧ (Overlong q.limit ∨ Overlong q.offset) := by
  have hlimit := boundPart_eq_error_iff "LIMIT" q.limit failure
  have hoffset := boundPart_eq_error_iff "OFFSET" q.offset failure
  rw [and_or_left, ← hlimit, ← hoffset]
  unfold tailParts
  rcases hl : boundPart "LIMIT" q.limit with other | limit
  · rw [hl] at hlimit
    rcases ho : boundPart "OFFSET" q.offset with other' | offset
    · obtain ⟨rfl, _⟩ := (boundPart_eq_error_iff "LIMIT" q.limit other).mp hl
      obtain ⟨rfl, _⟩ := (boundPart_eq_error_iff "OFFSET" q.offset other').mp ho
      exact (or_self_iff).symm
    · exact (or_iff_left nofun).symm
  · rcases ho : boundPart "OFFSET" q.offset with other' | offset
    · exact (or_iff_right nofun).symm
    · exact iff_of_false nofun fun h => h.elim nofun nofun

/-! ### The kinds of statements -/

/-- A select fails over its first unbalanced clause, and then over a bound that is too long. -/
theorem failsExactly_renderSelect (h : q.Textual) (htable : ¬q.Tableless) :
    FailsExactly
      (FirstOf (Expression.Unbalanced "WHERE" q.wheres)
        (FirstOf (Expression.Unbalanced "HAVING" q.having)
          fun failure => failure = .malformed ∧ (Overlong q.limit ∨ Overlong q.offset)))
      (renderSelect d q q.columns true) := by
  refine (failsExactly_never_requireTable h htable).never_bind fun _ => ?_
  refine (failsExactly_never_columnTexts h.columns).never_bind fun _ => ?_
  rw [h.named.labelledTable]
  refine FailsExactly.never_bind (.pure _) fun _ => ?_
  refine (Expression.failsExactly_renderClause h.wheres false).bind fun _ => ?_
  refine (failsExactly_never_columnTexts h.groupBy).never_bind fun _ => ?_
  refine (Expression.failsExactly_renderClause h.having false).bind fun _ => ?_
  refine FailsExactly.bind_never ?_ fun _ => .pure _
  exact (FailsExactly.ofExcept _).congr fun _ => tailParts_eq_error_iff

/-- An insert fails exactly without data. -/
theorem failsExactly_renderInsert (h : q.Textual) (htable : ¬q.Tableless) :
    FailsExactly (fun failure => failure = .noData .insert ∧ Dataless q.insert)
      (renderInsert d q) := by
  have hnever : ∀ act : Attempt Binder String, ¬Dataless q.insert → FailsExactly Never act →
      FailsExactly (fun failure => failure = .noData .insert ∧ Dataless q.insert) act := by
    intro act hdata hact
    exact hact.congr fun failure => iff_of_false id fun hfailure => hdata hfailure.2
  refine (failsExactly_never_requireTable h htable).never_bind fun _ => ?_
  split
  · rename_i entry row hinsert
    refine hnever _ ?_ (failsExactly_never_renderRows h.named (h.insert _ hinsert) _)
    rw [hinsert]
    nofun
  · rename_i column columns row rows hinsert
    refine hnever _ ?_ (failsExactly_never_renderRows h.named (h.insert _ hinsert) _)
    rw [hinsert]
    nofun
  · rename_i hsingle hrows
    refine (FailsExactly.fail _).congr fun failure => (and_iff_left ?_).symm
    rcases hinsert : q.insert with _ | (_ | ⟨entry, row⟩) | ⟨_ | ⟨column, columns⟩, rows⟩
    · exact .absent
    · exact .row
    · exact absurd hinsert (hsingle entry row)
    · exact .columns rows
    · cases rows with
      | nil => exact .rows _
      | cons row rows => exact absurd hinsert (hrows column columns row rows)

/-- An update fails without data, and then over an unbalanced clause. -/
theorem failsExactly_renderUpdate (h : q.Textual) (htable : ¬q.Tableless) :
    FailsExactly
      (FirstOf (fun failure => failure = .noData .update ∧ q.update = [])
        (Expression.Unbalanced "WHERE" q.wheres))
      (renderUpdate d q) := by
  refine (failsExactly_never_requireTable h htable).never_bind fun _ => ?_
  split
  · rename_i hempty
    have hdata : q.update = [] := List.isEmpty_iff.mp hempty
    refine (FailsExactly.fail _).congr fun failure => ?_
    simp [FirstOf, hdata]
  · rename_i hne
    have hdata : q.update ≠ [] := fun hnil => hne (List.isEmpty_iff.mpr hnil)
    refine FailsExactly.congr (P := Expression.Unbalanced "WHERE" q.wheres) ?_ fun failure => ?_
    · refine (FailsExactly.forAll_never fun entry hm =>
        failsExactly_never_renderSet (h.update entry hm)).never_bind fun _ => ?_
      exact (Expression.failsExactly_renderClause h.wheres true).bind_never fun _ =>
        (failsExactly_never_write h.named.table).bind_never fun _ => .pure _
    · simp [FirstOf, hdata]

/-- A delete fails exactly over an unbalanced clause. -/
theorem failsExactly_renderDelete (h : q.Textual) (htable : ¬q.Tableless) :
    FailsExactly (Expression.Unbalanced "WHERE" q.wheres) (renderDelete d q) :=
  (failsExactly_never_requireTable h htable).never_bind fun _ =>
    (Expression.failsExactly_renderClause h.wheres true).bind_never fun _ =>
      (failsExactly_never_write h.named.table).bind_never fun _ => .pure _

/-- A query is refused for the first reason that applies, and for nothing else. -/
theorem failsExactly_render (h : q.Textual) : FailsExactly q.Refused (q.render d) := by
  by_cases htable : q.Tableless
  · have hrender : q.render d = fail .noTable := by
      rw [render, (requireTable_eq_error_iff h).mpr ⟨rfl, htable⟩]
      rfl
    rw [hrender]
    refine (FailsExactly.fail _).congr fun failure => ?_
    constructor
    · rintro rfl
      exact .table htable
    · intro hrefused
      cases hrefused <;> first | rfl | contradiction
  refine (failsExactly_never_requireTable h htable).never_bind fun _ => ?_
  cases hkind : q.kind with
  | select =>
    refine (failsExactly_renderSelect h htable).congr fun failure => ?_
    simp only [FirstOf, ← Expression.balanced_iff]
    constructor
    · rintro (hwheres | ⟨hwheres, hhaving | ⟨hhaving, rfl, hbound⟩⟩)
      · exact .wheres htable (.inl hkind) hwheres
      · exact .having htable hkind hwheres hhaving
      · exact .bound htable hkind hwheres hhaving hbound
    · intro hrefused
      cases hrefused with
      | wheres _ _ hwheres => exact .inl hwheres
      | having _ _ hwheres hhaving => exact .inr ⟨hwheres, .inl hhaving⟩
      | bound _ _ hwheres hhaving hbound => exact .inr ⟨hwheres, .inr ⟨hhaving, rfl, hbound⟩⟩
      | _ => simp_all
  | insert =>
    refine (failsExactly_renderInsert h htable).congr fun failure => ?_
    constructor
    · rintro ⟨rfl, hdata⟩
      exact .insert htable hkind hdata
    · intro hrefused
      cases hrefused with
      | insert _ _ hdata => exact ⟨rfl, hdata⟩
      | _ => simp_all
  | update =>
    refine (failsExactly_renderUpdate h htable).congr fun failure => ?_
    constructor
    · rintro (⟨rfl, hdata⟩ | ⟨hdata, hwheres⟩)
      · exact .update htable hkind hdata
      · exact .wheres htable (.inr (.inr ⟨hkind, fun hnil => hdata _ ⟨rfl, hnil⟩⟩)) hwheres
    · intro hrefused
      cases hrefused with
      | update _ _ hdata => exact .inl ⟨rfl, hdata⟩
      | wheres _ hwrites hwheres =>
        refine .inr ⟨fun other hother => ?_, hwheres⟩
        simp_all
      | _ => simp_all
  | delete =>
    refine (failsExactly_renderDelete h htable).congr fun failure => ?_
    constructor
    · exact .wheres htable (.inr (.inl hkind))
    · intro hrefused
      cases hrefused with
      | wheres _ _ hwheres => exact hwheres
      | _ => simp_all
  | unset =>
    refine (FailsExactly.fail _).congr fun failure => ?_
    rw [← hkind]
    constructor
    · rintro rfl
      exact .kind htable (.inl hkind)
    · intro hrefused
      cases hrefused with
      | kind _ _ => rfl
      | _ => simp_all
  | unknown name =>
    refine (FailsExactly.fail _).congr fun failure => ?_
    rw [← hkind]
    constructor
    · rintro rfl
      exact .kind htable (.inr ⟨name, hkind⟩)
    · intro hrefused
      cases hrefused with
      | kind _ _ => rfl
      | _ => simp_all

/-! ### Numerals -/

/-- A number lies below the power of ten with as many zeros as it has digits. -/
theorem lt_pow_length_toString (n : Nat) : n < 10 ^ (toString n).length := by
  have hdigits : (toString n).length = (Nat.toDigits 10 n).length := String.length_ofList
  rw [hdigits]
  induction n using Nat.strongRecOn with
  | ind n ih =>
    by_cases hsmall : n < 10
    · rw [Nat.toDigits_of_lt_base hsmall]
      exact hsmall
    · have hfront := ih (n / 10) (by omega) String.length_ofList
      rw [Nat.toDigits_of_base_le (by omega) (by omega), List.length_append, List.length_singleton,
        Nat.pow_succ]
      omega

/-- A bound that reaches the power of ten with as many zeros as a numeral may have digits is too
long. -/
theorem overlong_of_pow_le {n : Nat} (h : 10 ^ Text.maxDigits ≤ n) : Overlong (some n) := by
  refine ⟨n, rfl, Nat.not_le.mp fun hle => ?_⟩
  have hpow : 10 ^ (toString n).length ≤ 10 ^ Text.maxDigits := Nat.pow_le_pow_right (by omega) hle
  have hlt := lt_pow_length_toString n
  omega

/-- The start of a page of twenty rows is too long if the number of the page is almost. -/
theorem overlong_twentyfold {k : Nat} (hk : 0 < k) (h : Text.maxDigits = k + 1) :
    Overlong (some ((10 ^ k - 1) * 20)) := by
  have hbase : 10 ^ 1 ≤ 10 ^ k := Nat.pow_le_pow_right (by decide) hk
  refine overlong_of_pow_le ?_
  rw [h, Nat.pow_succ]
  omega

end Query

namespace Builder

/-- A builder fails to render for the first reason that applies to its query, and renders exactly if
there is none. -/
theorem compile_refused {b : Builder} (h : b.query.Textual) :
    (∀ failure, (compile.run b).1 = .error failure ↔ b.query.Refused failure) ∧
      ((∃ c, (compile.run b).1 = .ok c) ↔ ∀ failure, ¬b.query.Refused failure) := by
  have hfails : ∀ failure, (compile.run b).1 = .error failure ↔ b.query.Refused failure :=
    fun failure => compile_eq_error.trans (Query.failsExactly_render h _ _)
  refine ⟨hfails, ?_⟩
  rcases hcompile : (compile.run b).1 with failure | c
  · exact iff_of_false nofun fun hnone => hnone failure ((hfails failure).mp hcompile)
  · refine iff_of_true ⟨c, rfl⟩ fun failure hrefused => ?_
    rw [(hfails failure).mpr hrefused] at hcompile
    cases hcompile

/-- A select with an unmatched close among its conditions on rows, an open group among those on
groups and a bound that is too long, and a delete with two open groups. -/
theorem compile_refused_first :
    let test : Token := .test .and (.compare (.text "a") (.text "=") (.int 1))
    let selecting : Builder :=
      { query := { Query.fresh with
          table := .text "t", wheres := [test, .closing], having := [.opening .or],
          limit := some (10 ^ Text.maxDigits) }
        binder := .fresh
        dialect := .ofTarget .sqlite }
    let deleting : Builder :=
      { query := { Query.fresh with
          table := .text "t", kind := .delete, wheres := [.opening .and, test, .opening .or] }
        binder := .fresh
        dialect := .ofTarget .sqlite }
    selecting.query.Textual ∧ (compile.run selecting).1 = .error (.unmatchedClose "WHERE") ∧
      deleting.query.Textual ∧ (compile.run deleting).1 = .error (.unclosedGroups "WHERE" 2) := by
  intro test selecting deleting
  have hselecting : selecting.query.Textual :=
    ⟨.inr ⟨"t", rfl⟩, rfl, Query.allTexts_fresh, nofun, nofun, nofun,
      ⟨by simp [selecting, test], by decide⟩, ⟨by simp [selecting], by decide⟩⟩
  have hdeleting : deleting.query.Textual :=
    ⟨.inr ⟨"t", rfl⟩, rfl, Query.allTexts_fresh, nofun, nofun, nofun,
      ⟨by simp [deleting, test], by decide⟩, ⟨nofun, nofun⟩⟩
  have hclose : selecting.query.Refused (.unmatchedClose "WHERE") := by
    refine .wheres (by simp [selecting, Query.Tableless]) (.inl rfl) (.close ?_)
    exact ⟨[test, .closing], List.prefix_refl _, by decide⟩
  have hopen : Balanced deleting.query.wheres 2 :=
    ((balanced_nil.concat_opening .and).concat test rfl).concat_opening .or
  have hunclosed : deleting.query.Refused (.unclosedGroups "WHERE" 2) :=
    .wheres (by simp [deleting, Query.Tableless]) (.inr (.inl rfl)) (.unclosed hopen (by decide))
  exact ⟨hselecting, ((compile_refused hselecting).1 _).mpr hclose,
    hdeleting, ((compile_refused hdeleting).1 _).mpr hunclosed⟩

/-- A select without conditions whose bounds are those of a page that lies far behind. -/
theorem compile_overlong :
    let b : Builder :=
      { query := { Query.fresh with
          table := .text "t", limit := some 20, offset := some ((10 ^ 4299 - 1) * 20) }
        binder := .fresh
        dialect := .ofTarget .sqlite }
    b.query.Textual ∧ ¬b.query.Tableless ∧ b.query.kind = .select ∧
      Balanced b.query.wheres 0 ∧ Balanced b.query.having 0 ∧
      (compile.run b).1 = .error .malformed := by
  intro b
  have htextual : b.query.Textual :=
    ⟨.inr ⟨"t", rfl⟩, rfl, Query.allTexts_fresh, nofun, nofun, nofun, ⟨nofun, nofun⟩,
      ⟨nofun, nofun⟩⟩
  have htable : ¬b.query.Tableless := by simp [b, Query.Tableless]
  have hlong : Query.Overlong b.query.offset :=
    Query.overlong_twentyfold (k := 4299) (by decide) rfl
  exact ⟨htextual, htable, rfl, balanced_nil, balanced_nil, compile_eq_error.mpr
    ((Query.failsExactly_render htextual _ _).mpr
      (.bound htable rfl balanced_nil balanced_nil (.inr hlong)))⟩

end Builder

end BoundSql
