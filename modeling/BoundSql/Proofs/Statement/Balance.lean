import BoundSql.Proofs.Attempt.Failures
import BoundSql.Proofs.Condition.Balance
import BoundSql.Proofs.Query.Columns
import BoundSql.Proofs.Statement.Bindings

/-!
# Statements over balanced conditions

A statement whose conditions are balanced is never refused for its groups. While groups of its
conditions on rows are open, a statement that writes these conditions is always refused: for the
open groups, unless something that stands before their end is no text or cannot be written.
-/

namespace BoundSql

/-- Whether a call failed because a group is not closed where it was opened. -/
def Failure.isImbalance : Failure → Bool
  | unmatchedClose _ | unclosedGroups _ _ => true
  | _ => false

open Attempt Token

namespace Query

variable {d : Dialect} {q : Query} {k : Nat}

/-- The statement writes its conditions on rows: a select or a delete of a table, or an update of a
table with data. -/
structure WritesWheres (q : Query) : Prop where
  /-- A table is set. -/
  table : q.table.truthy = true
  /-- The kind has conditions, and what comes before them. -/
  kind : q.kind = .select ∨ q.kind = .delete ∨ q.kind = .update ∧ q.update.isEmpty = false

/-- What a statement fails with while `k` groups of its conditions on rows are open. -/
inductive OpenFailure (q : Query) (k : Nat) : Failure → Prop
  /-- The groups are open. -/
  | unclosed : OpenFailure q k (.unclosedGroups "WHERE" k)
  /-- A column of the select is no text. -/
  | column (hkind : q.kind = .select) (h : ¬AllTexts q.columns) : OpenFailure q k .mistyped
  /-- A condition is no text or cannot be written. -/
  | fragment {failure : Failure} (h : ∃ token ∈ q.wheres, Expression.Unwritten token failure) :
    OpenFailure q k failure
  /-- The table or its label cannot be written. -/
  | table (h : ¬q.Named) : OpenFailure q k .malformed
  /-- A column of the update cannot be written. -/
  | entry (hkind : q.kind = .update)
    (h : ∃ key ∈ Entries.keys q.update, key.isWritable = false) : OpenFailure q k .malformed

/-- Where all that is written as it is are texts or can be written, the groups are what the
statement fails for. -/
theorem OpenFailure.eq_unclosedGroups {failure : Failure} (h : OpenFailure q k failure)
    (hnamed : q.Named) (hcolumns : q.kind = .select → AllTexts q.columns)
    (hentries : q.kind = .update → ∀ key ∈ Entries.keys q.update, key.isWritable = true)
    (hwheres : ∀ token ∈ q.wheres, Expression.Textual token) :
    failure = .unclosedGroups "WHERE" k := by
  cases h with
  | unclosed => rfl
  | column hkind hmistyped => exact absurd (hcolumns hkind) hmistyped
  | fragment hunwritten =>
    obtain ⟨token, hm, hfails⟩ := hunwritten
    exact absurd (hwheres token hm) hfails.not_textual
  | table hunnamed => exact absurd hnamed hunnamed
  | entry hkind hunwritable =>
    obtain ⟨key, hm, hkey⟩ := hunwritable
    rw [hentries hkind key hm] at hkey
    cases hkey

/-- A bound that is too long is the only failure of the tail. -/
theorem tailParts_eq_error {failure : Failure} (h : q.tailParts = .error failure) :
    failure = .malformed := by
  have hbound : ∀ keyword bound failure, boundPart keyword bound = .error failure →
      failure = .malformed := by
    intro keyword bound failure h
    cases bound with
    | none => cases h
    | some n =>
      dsimp only [boundPart] at h
      split at h
      · cases h
      · cases h
        rfl
  unfold tailParts at h
  cases hlimit : boundPart "LIMIT" q.limit with
  | error other =>
    rw [hlimit] at h
    cases h
    exact hbound _ _ _ hlimit
  | ok limit =>
    cases hoffset : boundPart "OFFSET" q.offset with
    | error other =>
      rw [hlimit, hoffset] at h
      cases h
      exact hbound _ _ _ hoffset
    | ok offset =>
      rw [hlimit, hoffset] at h
      cases h

/-! ### Statements whose groups are closed -/

/-- A failure that no group is to blame for. -/
abbrev Harmless (failure : Failure) : Prop := failure.isImbalance = false

/-- What cannot be written is a harmless failure, -/
theorem failsOnly_write (v : Value) :
    FailsOnly Harmless (ofExcept v.write : Attempt Binder String) :=
  .ofExcept fun _ h => by rw [(Value.write_eq_error h).1]; rfl

/-- and so is a table that cannot be. -/
theorem failsOnly_labelledTable :
    FailsOnly Harmless (ofExcept q.labelledTable : Attempt Binder String) :=
  .ofExcept fun _ h => by rw [(labelledTable_eq_error h).1]; rfl

/-- A missing table is a harmless failure. -/
theorem failsOnly_requireTable :
    FailsOnly Harmless (ofExcept q.requireTable : Attempt Binder Unit) := by
  refine .ofExcept fun _ h => ?_
  rcases requireTable_eq_error h with ⟨rfl, _⟩ | ⟨rfl, _⟩ <;> rfl

/-- A column that is no text is a harmless failure. -/
theorem failsOnly_columnTexts (columns : List Value) :
    FailsOnly Harmless (ofExcept (columnTexts columns) : Attempt Binder (List String)) :=
  .ofExcept fun _ h => by rw [(columnTexts_eq_error h).1]; rfl

/-- A clause whose groups are all closed fails harmlessly only. -/
theorem failsOnly_renderClause {tokens : List Token} (h : Balanced tokens 0) (clause : String)
    (guarded : Bool) : FailsOnly Harmless (Expression.renderClause d clause tokens guarded) := by
  intro b failure hrun
  have hcloses : Expression.Closes clause tokens 0
      ((Expression.renderClause d clause tokens guarded).run b).1 :=
    Expression.closes_renderClause h guarded b
  rw [hrun] at hcloses
  cases hcloses with
  | unwritten hm =>
    obtain ⟨_, _, hfails⟩ := hm
    cases hfails <;> rfl
  | foreign _ => rfl
  | unclosed hne => exact absurd rfl hne

/-- A placeholder does not fail. -/
theorem failsOnly_placeholder {P : Failure → Prop} (v : Value) :
    FailsOnly P (Expression.placeholder d v) := by
  intro b failure h
  cases h

/-- A column fails to be set only because it cannot be written. -/
theorem failsOnly_renderSet {P : Failure → Prop} {entry : Value × Value}
    (h : entry.1.isWritable = false → P .malformed) : FailsOnly P (renderSet d entry) := by
  refine FailsOnly.bind (.ofExcept fun failure hwrite => ?_) fun _ =>
    (failsOnly_placeholder entry.2).bind fun _ => .pure _
  obtain ⟨rfl, hunwritable⟩ := Value.write_eq_error hwrite
  exact h hunwritable

theorem failsOnly_renderRow {P : Failure → Prop} (values : List Value) :
    FailsOnly P (renderRow d values) :=
  (FailsOnly.forAll fun v _ => failsOnly_placeholder v).bind fun _ => .pure _

/-- Rows fail over their table and columns only. -/
theorem failsOnly_renderRows (columns : List Value) (rows : List (List Value)) :
    FailsOnly Harmless (renderRows d q columns rows) :=
  (FailsOnly.forAll fun values _ => failsOnly_renderRow values).bind fun _ =>
    (failsOnly_write q.table).bind fun _ => (failsOnly_columnTexts columns).bind fun _ => .pure _

/-- An insert has no groups to leave open. -/
theorem failsOnly_renderInsert : FailsOnly Harmless (renderInsert d q) := by
  refine failsOnly_requireTable.bind fun _ => ?_
  split
  · exact failsOnly_renderRows _ _
  · exact failsOnly_renderRows _ _
  · exact .fail rfl

/-- A select whose groups are all closed fails harmlessly only. -/
theorem failsOnly_renderSelect (hwheres : Balanced q.wheres 0) (hhaving : Balanced q.having 0)
    (columns : List Value) (withTail : Bool) :
    FailsOnly Harmless (renderSelect d q columns withTail) := by
  refine failsOnly_requireTable.bind fun _ => ?_
  refine (failsOnly_columnTexts columns).bind fun _ => failsOnly_labelledTable.bind fun _ => ?_
  refine (failsOnly_renderClause hwheres "WHERE" false).bind fun _ => ?_
  refine (failsOnly_columnTexts q.groupBy).bind fun _ => ?_
  refine (failsOnly_renderClause hhaving "HAVING" false).bind fun _ => ?_
  refine FailsOnly.bind (.ofExcept fun failure h => ?_) fun _ => .pure _
  split at h
  · rw [tailParts_eq_error h]
    rfl
  · cases h

theorem failsOnly_renderUpdate (hwheres : Balanced q.wheres 0) :
    FailsOnly Harmless (renderUpdate d q) := by
  refine failsOnly_requireTable.bind fun _ => ?_
  split
  · exact .fail rfl
  · have hsets : FailsOnly Harmless (forAll q.update (renderSet d)) :=
      .forAll fun entry _ => failsOnly_renderSet fun _ => rfl
    refine hsets.bind fun _ => ?_
    exact (failsOnly_renderClause hwheres "WHERE" true).bind fun _ =>
      (failsOnly_write q.table).bind fun _ => .pure _

theorem failsOnly_renderDelete (hwheres : Balanced q.wheres 0) :
    FailsOnly Harmless (renderDelete d q) :=
  failsOnly_requireTable.bind fun _ =>
    (failsOnly_renderClause hwheres "WHERE" true).bind fun _ =>
      (failsOnly_write q.table).bind fun _ => .pure _

/-- A statement is never refused for its groups if all of them are closed where they were opened. -/
theorem failsOnly_render (hwheres : Balanced q.wheres 0) (hhaving : Balanced q.having 0) :
    FailsOnly Harmless (q.render d) := by
  refine failsOnly_requireTable.bind fun _ => ?_
  cases q.kind with
  | select => exact failsOnly_renderSelect hwheres hhaving q.columns true
  | insert => exact failsOnly_renderInsert
  | update => exact failsOnly_renderUpdate hwheres
  | delete => exact failsOnly_renderDelete hwheres
  | unset => exact .fail rfl
  | unknown name => exact .fail rfl

/-! ### Statements with open groups -/

/-- The check of a table that is there fails only because it cannot be written. -/
theorem failsOnly_of_table (h : q.table.truthy = true) :
    FailsOnly (q.OpenFailure k) (ofExcept q.requireTable : Attempt Binder Unit) := by
  refine .ofExcept fun failure herror => ?_
  rcases requireTable_eq_error herror with ⟨_, hfalsy⟩ | ⟨rfl, _, hunnamed⟩
  · rw [h] at hfalsy
    cases hfalsy
  · exact .table hunnamed

/-- A clause with open groups fails, and says how many are open. -/
theorem fails_renderClause (h : Balanced q.wheres k) (hk : k ≠ 0)
    (hknown : ∀ s, .foreign s ∉ q.wheres) (guarded : Bool) :
    Fails (q.OpenFailure k) (Expression.renderClause d "WHERE" q.wheres guarded) := by
  intro b
  have hcloses : Expression.Closes "WHERE" q.wheres k
      ((Expression.renderClause d "WHERE" q.wheres guarded).run b).1 :=
    Expression.closes_renderClause h guarded b
  generalize ((Expression.renderClause d "WHERE" q.wheres guarded).run b).1 = outcome at hcloses ⊢
  cases hcloses with
  | unwritten hm => exact ⟨_, rfl, .fragment hm⟩
  | foreign hm =>
    obtain ⟨s, hm⟩ := hm
    exact absurd hm (hknown s)
  | unclosed _ => exact ⟨_, rfl, .unclosed⟩
  | text hzero _ => exact absurd hzero hk

/-- A statement that writes its conditions on rows is always refused while groups of them are
open. -/
theorem fails_render (hwrites : q.WritesWheres) (h : Balanced q.wheres k) (hk : k ≠ 0)
    (hknown : ∀ s, .foreign s ∉ q.wheres) : Fails (q.OpenFailure k) (q.render d) := by
  have htable : FailsOnly (q.OpenFailure k) (ofExcept q.requireTable : Attempt Binder Unit) :=
    failsOnly_of_table hwrites.table
  have hclause := fails_renderClause (d := d) h hk hknown
  refine .of_second htable fun _ => ?_
  rcases hwrites.kind with hkind | hkind | ⟨hkind, hdata⟩
  · simp only [hkind]
    refine .of_second htable fun _ => .of_second (.ofExcept fun failure herror => ?_) fun _ =>
      .of_second (.ofExcept fun failure herror => ?_) fun _ => (hclause false).of_first _
    · obtain ⟨rfl, hcolumns⟩ := columnTexts_eq_error herror
      exact .column hkind hcolumns
    · obtain ⟨rfl, hunnamed⟩ := labelledTable_eq_error herror
      exact .table hunnamed
  · simp only [hkind]
    exact .of_second htable fun _ => (hclause true).of_first _
  · simp only [hkind]
    refine .of_second htable fun _ => ?_
    rw [if_neg (by rw [hdata]; exact Bool.false_ne_true)]
    refine .of_second (.forAll fun entry hm => failsOnly_renderSet fun hunwritable => ?_) fun _ =>
      (hclause true).of_first _
    exact .entry hkind ⟨entry.1, List.mem_map_of_mem hm, hunwritable⟩

end Query

namespace Builder

/-- A builder fails to render for the reasons of its query. -/
theorem compile_eq_error {b : Builder} {failure : Failure} :
    (compile.run b).1 = .error failure ↔
      ((b.query.render b.dialect).run b.binder.reset).1 = .error failure := by
  have hcompile : compile.run b = (renderWith (b.query.render b.dialect)).run b := rfl
  rw [hcompile, run_renderWith]
  rcases (b.query.render b.dialect).run b.binder.reset with ⟨outcome, binder⟩
  cases outcome with
  | ok sql => constructor <;> intro h <;> cases h
  | error other => constructor <;> intro h <;> cases h <;> rfl

end Builder

end BoundSql
