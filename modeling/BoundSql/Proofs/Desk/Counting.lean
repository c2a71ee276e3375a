import BoundSql.Connection.Direct
import BoundSql.Proofs.Desk.Service
import BoundSql.Proofs.Desk.Steady
import BoundSql.Proofs.Statement.Select

/-!
# Counting a select

A builder counts its select by putting the counting column in place of its own and reading the
first row; a page is counted with a statement derived for it. Both are followed here to what they do
on the connection, and their statements compared.
-/

namespace BoundSql

open Attempt

variable {L : Type} [Connection L]

namespace Connection

/-- Serve a statement, if it rendered, and read the count off its first row. -/
def counted (rendered : Except Failure Compiled) : Attempt L Int := do
  let row ← (do firstRow (← .ofExcept rendered) : Attempt L (Option Row))
  .ofExcept (Desk.countOf row)

end Connection

namespace Builder

/-- The builder whose select has the counting column in place of its own. -/
def counting (b : Builder) : Builder :=
  { b with query := { b.query with columns := [.text Query.countColumn] } }

/-- A builder is put back as it was before it rendered its count. -/
theorem restore_compileCount (b : Builder) : (compileCount.run b).2.restore b.snapshot = b := by
  rw [run_compileCount_same]
  rfl

end Builder

namespace Desk

/-- A total is counted with the rendered count, and the builder stands as it stood. -/
theorem comes_countTotal (b : Builder) (link : L) :
    Comes countTotal b link ((Connection.counted (Builder.compileCount.run b).1).run link).1 b
      ((Connection.counted (Builder.compileCount.run b).1).run link).2 := by
  have hrow := OnLink.comes_bind (Comes.within_builder Builder.compileCount b link)
    onLink_fetchFirst
  have hscope := hrow.preserving
  rw [Builder.restore_compileCount] at hscope
  refine OnLink.comes_bind hscope fun row b link log => ?_
  rw [run_bind, run_ofExcept, run_ofExcept]
  cases countOf row with
  | ok total => exact ⟨_, rfl⟩
  | error failure => exact ⟨_, rfl⟩

/-- The first row of the select with the counting column. -/
theorem comes_counting (b : Builder) (link : L) :
    let rendered := Builder.compile.run b.counting
    let there : Attempt L (Option Row) := ofExcept rendered.1 >>= Connection.firstRow
    Comes (do
      (Attempt.update fun q => { q with columns := [.text Query.countColumn] }).within queryPart
      fetchFirst (← run)) b link (there.run link).1 rendered.2 (there.run link).2 := by
  intro rendered there
  refine (Comes.within_query _ b link).bind_ok ?_
  have hrun : (run >>= fetchFirst : Attempt (Desk L) (Option Row)) =
      Builder.compile.within builderPart >>= fun c => runCompiled c >>= fetchFirst :=
    bind_assoc ..
  rw [hrun]
  exact OnLink.comes_bind (Comes.within_builder Builder.compile b.counting link) onLink_fetchFirst

/-- A count is made with the select rendered with the counting column. -/
theorem comes_count {b : Builder} (hkind : b.query.kind = .select) (link : L) :
    let rendered := Builder.compile.run b.counting
    Comes count b link ((Connection.counted rendered.1).run link).1
      { b with binder := rendered.2.binder } ((Connection.counted rendered.1).run link).2 := by
  intro rendered
  have hpasses := Comes.within_builder (Builder.requireKind .count) b link
  rw [Builder.run_requireKind_of_eq hkind] at hpasses
  refine hpasses.bind_ok (.state b link fun log => ?_)
  have hscope := (comes_counting b link).ensuring fun b' =>
    { b' with query := { b'.query with columns := b.query.columns } }
  have hrestored : { rendered.2 with
      query := { rendered.2.query with columns := b.query.columns } } =
        { b with binder := rendered.2.binder } := by
    have hsame : rendered.2 = { b.counting with binder := rendered.2.binder } :=
      Builder.run_compile_same b.counting
    rw [hsame]
    rfl
  rw [hrestored] at hscope
  exact OnLink.comes_bind hscope fun row => .ofExcept (countOf row)

end Desk

namespace Builder

variable {b : Builder}

/-- How the two counts of a select differ. The select with the counting column keeps its groups, its
ordering and its bounds; the derived count drops ordering and bounds, and counts the rows of a
select that forms groups. -/
structure Counts (b : Builder) (direct derived : Compiled) : Prop where
  /-- Both bind the same values under the same names. -/
  params : direct.params = derived.params
  /-- They are the values of the conditions, under the names issued next. -/
  values :
    let values := Query.conditionValues b.query.wheres ++ Query.conditionValues b.query.having
    direct.params = (Binder.issued b.binder.counter values.length).zip values
  /-- Both have the body of the select. -/
  texts : ∃ columns body tail, b.query.tailParts = .ok tail ∧
    (b.query.isGrouped = true → b.query.columns = columns.map Value.text) ∧
    direct.sql = Query.selectText [Query.countColumn] body tail ∧
    derived.sql = Query.countText b.query.isGrouped columns body
  /-- Without groups their texts are the same exactly if there is nothing to drop. -/
  same_iff : b.query.isGrouped = false → (direct.sql = derived.sql ↔
    b.query.orderBy = [] ∧ b.query.limit = none ∧ b.query.offset = none)

/-- The select with the counting column renders exactly if its body and its tail do. -/
theorem compile_counting (hkind : b.query.kind = .select) (htable : b.query.requireTable = .ok ()) :
    let r := (Query.renderBody b.dialect b.query).run b.binder.reset
    (compile.run b.counting).1 = r.1.bind fun body => b.query.tailParts.map fun tail =>
      ⟨Query.selectText [Query.countColumn] body tail, r.2.params, b.dialect.name⟩ :=
  congrArg Prod.fst (run_compile_select (b := b.counting) hkind htable rfl)

/-- Where both counts render, they differ in this way only. -/
theorem counts_of_rendered (hkind : b.query.kind = .select) {c c' : Compiled}
    (h : (compile.run b.counting).1 = .ok c) (h' : (compileCount.run b).1 = .ok c') :
    Counts b c c' := by
  have htable := requireTable_of_compileCount hkind h'
  obtain ⟨columns, hcolumns⟩ := exists_texts_of_compileCount hkind htable h'
  obtain ⟨body, binder, hbody, rfl⟩ := exists_body_of_compileCount hkind htable hcolumns h'
  rw [compile_of_body (b := b.counting) hkind htable rfl hbody] at h
  have htail : b.counting.query.tailParts = b.query.tailParts := rfl
  rw [htail] at h
  cases htail : b.query.tailParts with
  | error f =>
    rw [htail] at h
    cases h
  | ok tail =>
    rw [htail] at h
    cases h
    refine ⟨rfl, params_renderBody hbody,
      ⟨columns, body, tail, htail, fun hgrouped => ?_, rfl, rfl⟩, fun hgrouped => ?_⟩
    · exact Query.eq_map_of_columnTexts (hcolumns hgrouped)
    · dsimp only
      rw [hgrouped, Query.countText, if_neg Bool.false_ne_true, Query.selectText_eq_iff,
        ← Query.tailParts_eq_nil_iff, htail, Except.ok.injEq]

end Builder

namespace Desk

/-- Without groups, ordering and bounds both ways of counting a select send the same statement and
come to the same. In general they bind the same and differ in the text, and they fail alike where
the columns and the bounds of the select can be written. -/
theorem count_countTotal_agree {b : Builder} (hkind : b.query.kind = .select) :
    let direct := (Builder.compile.run b.counting).1
    let derived := (Builder.compileCount.run b).1
    (∀ link : L, (∃ b', Comes count b link ((Connection.counted direct).run link).1 b'
        ((Connection.counted direct).run link).2) ∧
      Comes countTotal b link ((Connection.counted derived).run link).1 b
        ((Connection.counted derived).run link).2) ∧
    (b.query.isGrouped = false → b.query.orderBy = [] → b.query.limit = none →
      b.query.offset = none → direct = derived) ∧
    (∀ c c', direct = .ok c → derived = .ok c' → b.Counts c c') ∧
    (Query.AllTexts b.query.columns → (∃ tail, b.query.tailParts = .ok tail) →
      ∀ f, direct = .error f ↔ derived = .error f) := by
  intro direct derived
  have hcomes : ∀ link : L, (∃ b', Comes count b link ((Connection.counted direct).run link).1 b'
      ((Connection.counted direct).run link).2) ∧
      Comes countTotal b link ((Connection.counted derived).run link).1 b
        ((Connection.counted derived).run link).2 :=
    fun link => ⟨⟨_, comes_count hkind link⟩, comes_countTotal b link⟩
  have hcounts : ∀ c c', direct = .ok c → derived = .ok c' → b.Counts c c' :=
    fun c c' hc hc' => Builder.counts_of_rendered hkind hc hc'
  rcases htable : b.query.requireTable with failure | _
  · have hdirect : direct = .error failure := Builder.compile_of_untabled (b := b.counting) htable
    have hsame : direct = derived :=
      hdirect.trans (Builder.compileCount_of_untabled hkind htable).symm
    exact ⟨hcomes, fun _ _ _ _ => hsame, hcounts, fun _ _ f => by rw [hsame]⟩
  have hdirect : direct = _ := Builder.compile_counting hkind htable
  have hderived : ∀ texts, (b.query.isGrouped = true →
      Query.columnTexts b.query.columns = .ok texts) → derived = _ :=
    fun texts hcolumns => congrArg Prod.fst (Builder.run_compileCount_select hkind htable hcolumns)
  refine ⟨hcomes, fun hgrouped horder hlimit hoffset => ?_, hcounts, fun hcolumns htail f => ?_⟩
  · have htail : b.query.tailParts = .ok [] :=
      Query.tailParts_eq_nil_iff.mpr ⟨horder, hlimit, hoffset⟩
    rw [hderived [] (by rw [hgrouped]; nofun), hdirect, htail, hgrouped]
    rcases (Query.renderBody b.dialect b.query).run b.binder.reset with ⟨outcome, binder⟩
    cases outcome <;> rfl
  · obtain ⟨texts, htexts⟩ := hcolumns.columnTexts
    obtain ⟨tail, htail⟩ := htail
    rw [hderived texts fun _ => htexts, hdirect, htail]
    rcases (Query.renderBody b.dialect b.query).run b.binder.reset with ⟨outcome, binder⟩
    cases outcome with
    | ok body => exact iff_of_false nofun nofun
    | error f' => exact Iff.rfl

/-- A select with conditions is counted by one statement both ways. With groups and a bound the two
statements differ, and bind the same. -/
theorem count_countTotal_agree_filtered :
    let q : Query :=
      { Query.fresh with
        table := .text "t"
        wheres := [.test .and (.compare (.text "a") (.text ">") (.int 7)),
          .test .or (.raw (.text "b"))] }
    let plain : Builder := ⟨q, ⟨[], 4⟩, .ofTarget .sqlite⟩
    let grouped : Builder :=
      ⟨{ q with groupBy := [.text "c"], limit := some 5 }, ⟨[], 4⟩, .ofTarget .sqlite⟩
    let sql := fun rendered : Except Failure Compiled => rendered.toOption.map Compiled.sql
    (plain.query.kind = .select ∧ plain.query.table.truthy = true) ∧
      (Builder.compile.run plain.counting).1 = (Builder.compileCount.run plain).1 ∧
      sql (Builder.compileCount.run plain).1 =
        some "SELECT COUNT(*) AS cnt FROM t WHERE a > :p5 OR b" ∧
      (grouped.query.kind = .select ∧ grouped.query.table.truthy = true) ∧
      sql (Builder.compile.run grouped.counting).1 =
        some "SELECT COUNT(*) AS cnt FROM t WHERE a > :p5 OR b GROUP BY c LIMIT 5" ∧
      ∀ c c', (Builder.compile.run grouped.counting).1 = .ok c →
        (Builder.compileCount.run grouped).1 = .ok c' → c.params = c'.params := by
  intro q plain grouped sql
  obtain ⟨_, hsame, _⟩ := count_countTotal_agree (L := Direct) (b := plain) rfl
  obtain ⟨_, _, hcounts, _⟩ := count_countTotal_agree (L := Direct) (b := grouped) rfl
  exact ⟨⟨rfl, rfl⟩, hsame rfl rfl rfl rfl, by decide +kernel, ⟨rfl, rfl⟩, by decide +kernel,
    fun c c' hc hc' => (hcounts c c' hc hc').params⟩

/-- A select with a window is counted with the window by the one way and without it by the other; a
select of groups is counted group by group by the one way, and its groups by the other. -/
theorem count_countTotal_differ :
    let q : Query := { Query.fresh with table := .text "t" }
    let windowed : Builder :=
      ⟨{ q with limit := some 10, offset := some 20 }, .fresh, .ofTarget .sqlite⟩
    let grouped : Builder := ⟨{ q with groupBy := [.text "a"] }, .fresh, .ofTarget .sqlite⟩
    let link : Direct := ⟨.fresh false [], [], .int 0, .null⟩
    let prepared := fun (act : Attempt (Desk Direct) Int) (b : Builder) =>
      (act.run ⟨b, ⟨some link, []⟩⟩).2.line.link.map fun l => l.wire.calls.head?.map WireCall.args
    prepared count windowed =
        some (some [.text "SELECT COUNT(*) AS cnt FROM t LIMIT 10 OFFSET 20"]) ∧
      prepared countTotal windowed = some (some [.text "SELECT COUNT(*) AS cnt FROM t"]) ∧
      prepared count grouped = some (some [.text "SELECT COUNT(*) AS cnt FROM t GROUP BY a"]) ∧
      prepared countTotal grouped =
        some (some [.text "SELECT COUNT(*) AS cnt FROM (SELECT * FROM t GROUP BY a) AS _sub"]) := by
  intro q windowed grouped link prepared
  exact ⟨rfl, rfl, rfl, rfl⟩

end Desk

end BoundSql
