import BoundSql.Proofs.Connection.Passes
import BoundSql.Proofs.Desk.Counting
import BoundSql.Proofs.Settings

/-!
# Fetching a page

A page is fetched with two statements. The first one is the count of the select; when its first row
holds a total, the second one is the select bounded to the window of the page, and its rows are the
rows of the page. Both statements have the conditions and groups of the select and bind the same
values under the same names.
-/

namespace BoundSql

open Attempt

namespace Query

/-- The tail of a select with a window; a bound with too many digits cannot be written. -/
theorem tailParts_window (q : Query) (size start : Nat) :
    tailParts { q with limit := some size, offset := some start } =
      if (toString size).length ≤ Text.maxDigits ∧ (toString start).length ≤ Text.maxDigits then
        .ok ((if q.orderBy.isEmpty then [] else ["ORDER BY " ++ commas q.orderBy]) ++
          ["LIMIT " ++ toString size] ++ ["OFFSET " ++ toString start])
      else .error .malformed := by
  dsimp only [tailParts, boundPart]
  by_cases hsize : (toString size).length ≤ Text.maxDigits
  · by_cases hstart : (toString start).length ≤ Text.maxDigits
    · simp only [hsize, hstart, and_self, if_true]
      rfl
    · simp only [hsize, hstart, and_false, if_true, if_false]
      rfl
  · simp only [hsize, false_and, if_false]
    rfl

/-- The tail of a select with a window as one text. -/
theorem spaced_window (orderBy : List String) (limit offset : String) :
    spaced ((if orderBy.isEmpty then [] else ["ORDER BY " ++ commas orderBy]) ++
        ["LIMIT " ++ limit] ++ ["OFFSET " ++ offset]) =
      (if orderBy.isEmpty then "" else " ORDER BY " ++ commas orderBy) ++ " LIMIT " ++ limit ++
        " OFFSET " ++ offset := by
  have hblank : ∀ keyword text : String, " " ++ (keyword ++ text) = " " ++ keyword ++ text :=
    fun _ _ => (String.append_assoc ..).symm
  have horder : " " ++ "ORDER BY " = " ORDER BY " := rfl
  have hlimit : " " ++ "LIMIT " = " LIMIT " := rfl
  have hoffset : " " ++ "OFFSET " = " OFFSET " := rfl
  rw [spaced_append, spaced_append]
  split <;>
    simp only [spaced, hblank, horder, hlimit, hoffset, String.append_empty, String.append_assoc]

end Query

namespace Page

/-- Rows have no issues exactly if all names of their columns are texts. -/
theorem rowIssues_eq_nil_iff {rows : List Row} :
    rowIssues rows = [] ↔ ∀ row ∈ rows, Query.AllTexts (Entries.keys row) := by
  simp only [rowIssues, List.flatMap_eq_nil_iff, List.filterMap_eq_nil_iff]
  constructor
  · intro h row hm key hkey
    obtain ⟨i, hi⟩ := List.getElem?_of_mem hm
    have hnone := h (row, i) (List.mk_mem_zipIdx_iff_getElem?.mpr hi) key hkey
    cases key with
    | text s => exact ⟨s, rfl⟩
    | _ => cases hnone
  · rintro h ⟨row, i⟩ hm key hkey
    obtain ⟨s, rfl⟩ := h row (List.fst_mem_of_mem_zipIdx hm) key hkey
    rfl

/-- With an integer for its size a page is made, unless the names of columns are no texts. -/
theorem ofParts_int (rows : List Row) (total page : Int) (size : Nat) (pageCount : Int) :
    ofParts rows total page (.int size) pageCount =
      if rowIssues rows = [] then .ok ⟨rows, total, page, size, pageCount⟩
      else .error (.invalid ⟨"Page", rowIssues rows⟩) := by
  have hsize : Record.integer (Number.int size).value = .ok (size : Int) := rfl
  unfold ofParts
  dsimp only
  rw [hsize]
  cases rowIssues rows with
  | nil => rfl
  | cons issue rest => simp [Record.issue]

end Page

namespace Builder

/-- The builder whose select is bounded to a window. -/
def windowed (b : Builder) (size start : Nat) : Builder :=
  { b with query := { b.query with limit := some size, offset := some start } }

/-- The builder whose select is neither ordered nor bounded. -/
def whole (b : Builder) : Builder :=
  { b with query := { b.query with orderBy := [], limit := none, offset := none } }

/-- A builder is put back as it was before it rendered a window. -/
theorem restore_windowed (b : Builder) (size start : Nat) :
    (compile.run (b.windowed size start)).2.restore b.snapshot = b := by
  rw [run_compile_same]
  rfl

/-- The two statements of a page. They have the conditions and groups of the select without its
ordering and bounds, the whole select, and bind the same; the count counts its groups or its rows,
and the window orders and bounds it. -/
structure PageOf (b : Builder) (size start : Nat) (count window : Compiled) : Prop where
  /-- Both bind the same values under the same names. -/
  params : count.params = window.params
  /-- They are the values of the conditions, under the names issued next. -/
  values :
    let values := Query.conditionValues b.query.wheres ++ Query.conditionValues b.query.having
    window.params = (Binder.issued b.binder.counter values.length).zip values
  /-- Their texts are those of the whole select with a change in front and behind. -/
  texts : ∃ whole columns body, (compile.run b.whole).1 = .ok whole ∧
    b.query.columns = columns.map Value.text ∧
    whole.sql = "SELECT " ++ Query.commas columns ++ body ∧
    count.sql = (if b.query.isGrouped then
        "SELECT COUNT(*) AS cnt FROM (" ++ whole.sql ++ ") AS _sub"
      else "SELECT COUNT(*) AS cnt" ++ body) ∧
    window.sql = whole.sql ++
      (if b.query.orderBy.isEmpty then "" else " ORDER BY " ++ Query.commas b.query.orderBy) ++
      " LIMIT " ++ toString size ++ " OFFSET " ++ toString start

variable {b : Builder}

/-- Where the count and the window render, they are those of a page. -/
theorem pageOf_rendered (hkind : b.query.kind = .select)
    (hcolumns : Query.AllTexts b.query.columns) {size start : Nat} {c c' : Compiled}
    (h : (compileCount.run b).1 = .ok c) (h' : (compile.run (b.windowed size start)).1 = .ok c') :
    PageOf b size start c c' := by
  have htable := requireTable_of_compileCount hkind h
  obtain ⟨columns, htexts⟩ := hcolumns.columnTexts
  obtain ⟨body, binder, hbody, rfl⟩ :=
    exists_body_of_compileCount hkind htable (fun _ => htexts) h
  have hwhole : (compile.run b.whole).1 =
      .ok ⟨Query.selectText columns body [], binder.params, b.dialect.name⟩ :=
    compile_of_body (b := b.whole) hkind htable htexts hbody
  rw [compile_of_body (b := b.windowed size start) hkind htable htexts hbody, windowed,
    Query.tailParts_window] at h'
  split at h'
  · cases h'
    refine ⟨rfl, params_renderBody hbody, _, columns, body, hwhole,
      Query.eq_map_of_columnTexts htexts, Query.selectText_nil columns body,
      Query.countText_eq b.query.isGrouped columns body, ?_⟩
    dsimp only
    rw [Query.selectText_append, Query.spaced_window]
    simp only [String.append_assoc]
  · cases h'

/-- Where the count renders, the window fails to only for bounds with too many digits. -/
theorem compile_windowed_eq_error (hkind : b.query.kind = .select)
    (hcolumns : Query.AllTexts b.query.columns) {size start : Nat} {c : Compiled} {f : Failure}
    (h : (compileCount.run b).1 = .ok c)
    (h' : (compile.run (b.windowed size start)).1 = .error f) :
    f = .malformed ∧ (Text.maxDigits < (toString size).length ∨
      Text.maxDigits < (toString start).length) := by
  have htable := requireTable_of_compileCount hkind h
  obtain ⟨columns, htexts⟩ := hcolumns.columnTexts
  obtain ⟨body, binder, hbody, rfl⟩ :=
    exists_body_of_compileCount hkind htable (fun _ => htexts) h
  rw [compile_of_body (b := b.windowed size start) hkind htable htexts hbody, windowed,
    Query.tailParts_window] at h'
  split at h'
  · cases h'
  · rename_i hlong
    cases h'
    exact ⟨rfl, by omega⟩

end Builder

namespace Desk

variable {L : Type} [Connection L]

/-- The rows of a window are those of the select bounded to it. -/
theorem comes_window (b : Builder) (link : L) (size before : Nat) :
    let rendered := Builder.compile.run (b.windowed size (before * size))
    let there : Attempt L (List Row) := ofExcept rendered.1 >>= Connection.allRows
    Comes (window (.int size) before) b link (there.run link).1 rendered.2 (there.run link).2 := by
  intro rendered there
  refine (Comes.within_query (Clause.limit (.int size)).apply b link).bind_ok ?_
  have hscaled : (Number.int size).scaled before = .ok (.int ((before * size : Nat) : Int)) := by
    rw [Int.natCast_mul]
    rfl
  rw [hscaled]
  refine (Comes.ofExcept _).bind_ok ?_
  refine (Comes.within_query (Clause.offset (.int ((before * size : Nat) : Int))).apply _
    link).bind_ok ?_
  have hget : (get : Attempt (Desk L) (List Row)) = Builder.compile.within builderPart >>= fun c =>
      runCompiled c >>= fun statement => use statement Connection.fetchAll >>= fun answer =>
        pure answer.1 := bind_assoc ..
  rw [hget]
  exact OnLink.comes_bind (Comes.within_builder Builder.compile _ link) onLink_fetchAll

/-- The count of a select is served, and its first row is taken. -/
def Counts (b : Builder) (link : L) (row : Option Row) (link' : L) : Prop :=
  ∃ c, (Builder.compileCount.run b).1 = .ok c ∧ (Connection.firstRow c).run link = (.ok row, link')

/-- A select is served, and all its rows are taken. -/
def Fetches (b : Builder) (link : L) (rows : List Row) (link' : L) : Prop :=
  ∃ c, (Builder.compile.run b).1 = .ok c ∧ (Connection.allRows c).run link = (.ok rows, link')

/-- How a page of a select is fetched over a connection on which all calls pass: what is served
there, one statement after the other, what it comes to, and what is left of the connection. -/
inductive Paged (b : Builder) (page size : Nat) (link : L) : Except Failure Page → L → Prop
  /-- The count does not render, and nothing is served. -/
  | unrendered {f : Failure} (hcount : (Builder.compileCount.run b).1 = .error f) :
    Paged b page size link (.error f) link
  /-- The first row of the count holds no total, and nothing more is served. -/
  | uncounted {row : Option Row} {link' : L} {f : Failure} (hcount : Counts b link row link')
    (htotal : countOf row = .error f) : Paged b page size link (.error f) link'
  /-- A bound of the window has too many digits to be written, and nothing more is served. -/
  | unbounded {row : Option Row} {link' : L} {total : Int} (hcount : Counts b link row link')
    (htotal : countOf row = .ok total)
    (hlong : Text.maxDigits < (toString size).length ∨
      Text.maxDigits < (toString ((page - 1) * size)).length) :
    Paged b page size link (.error .malformed) link'
  /-- The rows of the window make the page. -/
  | fetched {row : Option Row} {rows : List Row} {link' link'' : L} {total pageCount : Int}
    (hcount : Counts b link row link') (htotal : countOf row = .ok total)
    (hwindow : Fetches (b.windowed size ((page - 1) * size)) link' rows link'')
    (hpages : (Number.int size).quotientCeil total = .ok pageCount)
    (hnames : ∀ row ∈ rows, Query.AllTexts (Entries.keys row)) :
    Paged b page size link (.ok ⟨rows, total, page, size, pageCount⟩) link''
  /-- The number of pages lies beyond the doubles, which is found out behind both statements. -/
  | overflowed {row : Option Row} {rows : List Row} {link' link'' : L} {total : Int} {f : Failure}
    (hcount : Counts b link row link') (htotal : countOf row = .ok total)
    (hwindow : Fetches (b.windowed size ((page - 1) * size)) link' rows link'')
    (hpages : (Number.int size).quotientCeil total = .error f) :
    Paged b page size link (.error f) link''
  /-- A column of a row is not named by a text, which is found out behind both statements. -/
  | unnamed {row : Option Row} {rows : List Row} {link' link'' : L} {total pageCount : Int}
    (hcount : Counts b link row link') (htotal : countOf row = .ok total)
    (hwindow : Fetches (b.windowed size ((page - 1) * size)) link' rows link'')
    (hpages : (Number.int size).quotientCeil total = .ok pageCount)
    (hnames : ¬∀ row ∈ rows, Query.AllTexts (Entries.keys row)) :
    Paged b page size link (.error (.invalid ⟨"Page", Page.rowIssues rows⟩)) link''

/-- The page that a total and rows make. -/
def pageOf (page size : Nat) (answer : Int × List Row) : Except Failure Page := do
  let pageCount ← (Number.int size).quotientCeil answer.1
  Page.ofParts answer.2 answer.1 page (.int size) pageCount

/-- What comes of the total and the rows of a page. -/
theorem comes_paginate {settings : Settings} {page : Int} {asked : Option Int} {b b' : Builder}
    {link link' : L} {outcome : Except Failure (Int × List Row)}
    (h : Comes (do
      let total ← countTotal
      let rows ← window (.int (settings.clamped asked)) ((max 1 page).toNat - 1 : Nat)
      pure (total, rows)) b link outcome b' link') (hback : b'.restore b.snapshot = b) :
    Comes (paginate settings (some (.int page)) (asked.map .int)) b link
      (outcome.bind (pageOf (max 1 page).toNat (settings.clamped asked))) b link' := by
  have hbefore : (((max 1 page).toNat - 1 : Nat) : Int) = max 1 page - 1 := by omega
  have hpage : (((max 1 page).toNat : Nat) : Int) = max 1 page := by omega
  have hscope := h.preserving
  rw [hback, hbefore] at hscope
  refine (Comes.ofExcept (.ok page)).bind_ok ?_
  rw [Settings.pageSize_eq]
  refine (Comes.ofExcept _).bind_ok ?_
  cases outcome with
  | error f => exact hscope.bind_error
  | ok answer =>
    refine hscope.bind_ok ?_
    dsimp only [Except.bind, pageOf]
    rw [hpage]
    cases (Number.int (settings.clamped asked)).quotientCeil answer.1 with
    | error f => exact (Comes.ofExcept (.error f)).bind_error
    | ok pageCount => exact (Comes.ofExcept (.ok pageCount)).bind_ok (.ofExcept _)

/-- Once both statements are served, the page is made or is not, and nothing more is called. -/
theorem paged_of_fetched {b : Builder} {page size : Nat} {link link' link'' : L}
    {row : Option Row} {rows : List Row} {total : Int} (hcount : Counts b link row link')
    (htotal : countOf row = .ok total)
    (hwindow : Fetches (b.windowed size ((page - 1) * size)) link' rows link'') :
    Paged b page size link (pageOf page size (total, rows)) link'' := by
  unfold pageOf
  cases hpages : (Number.int size).quotientCeil total with
  | error f => exact .overflowed hcount htotal hwindow hpages
  | ok pageCount =>
    have hparts : (do
        let pageCount ← Except.ok pageCount
        Page.ofParts rows total page (.int size) pageCount) =
          Page.ofParts rows total page (.int size) pageCount := rfl
    rw [hparts, Page.ofParts_int]
    by_cases hissues : Page.rowIssues rows = []
    · rw [if_pos hissues]
      exact .fetched hcount htotal hwindow hpages (Page.rowIssues_eq_nil_iff.mp hissues)
    · rw [if_neg hissues]
      exact .unnamed hcount htotal hwindow hpages (mt Page.rowIssues_eq_nil_iff.mpr hissues)

/-- A connection that serves the count answers the total with what it counted. -/
theorem Counts.comes {b : Builder} {link link' : L} {row : Option Row}
    (h : Counts b link row link') : Comes countTotal b link (countOf row) b link' := by
  obtain ⟨c, hcount, hrow⟩ := h
  have hcounted : (Connection.counted (.ok c)).run link = (countOf row, link') := by
    have hfirst : (ofExcept (.ok c) >>= Connection.firstRow).run link = (.ok row, link') := hrow
    rw [Connection.counted, run_bind, hfirst]
    exact run_ofExcept ..
  have htotal := comes_countTotal b link
  rwa [hcount, hcounted] at htotal

/-- A connection that serves the window answers with its rows. -/
theorem Fetches.comes {b : Builder} {link link' : L} {size before : Nat} {rows : List Row}
    (h : Fetches (b.windowed size (before * size)) link rows link') :
    Comes (window (.int size) before) b link (.ok rows)
      (Builder.compile.run (b.windowed size (before * size))).2 link' := by
  obtain ⟨c, hwindow, hrows⟩ := h
  have hall : (ofExcept (.ok c) >>= Connection.allRows).run link = (.ok rows, link') := hrows
  have hcomes := comes_window b link size before
  dsimp only at hcomes
  rwa [hwindow, hall] at hcomes

/-- On a connection on which all calls pass a page is fetched with at most two statements. -/
theorem exists_paged {b : Builder} (hkind : b.query.kind = .select)
    (hcolumns : Query.AllTexts b.query.columns)
    (settings : Settings) (page : Int) (asked : Option Int) {link : L}
    (hserves : Connection.Serves link) :
    ∃ outcome link', Comes (paginate settings (some (.int page)) (asked.map .int)) b link outcome b
        link' ∧ Paged b (max 1 page).toNat (settings.clamped asked) link outcome link' := by
  cases hcount : (Builder.compileCount.run b).1 with
  | error f =>
    have htotal := comes_countTotal b link
    rw [hcount] at htotal
    exact ⟨_, _, comes_paginate htotal.bind_error rfl, .unrendered hcount⟩
  | ok c =>
    obtain ⟨row, link', hrow, hserves'⟩ := hserves c
    have hcounts : Counts b link row link' := ⟨c, hcount, hrow⟩
    have htotal := hcounts.comes
    cases hof : countOf row with
    | error f =>
      rw [hof] at htotal
      exact ⟨_, _, comes_paginate htotal.bind_error rfl, .uncounted hcounts hof⟩
    | ok total =>
      rw [hof] at htotal
      have hback := Builder.restore_windowed b (settings.clamped asked)
        (((max 1 page).toNat - 1) * settings.clamped asked)
      cases hrendered : (Builder.compile.run (b.windowed (settings.clamped asked)
          (((max 1 page).toNat - 1) * settings.clamped asked))).1 with
      | error f =>
        obtain ⟨rfl, hlong⟩ :=
          Builder.compile_windowed_eq_error hkind hcolumns hcount hrendered
        have hwindow := comes_window b link' (settings.clamped asked) ((max 1 page).toNat - 1)
        dsimp only at hwindow
        rw [hrendered] at hwindow
        exact ⟨_, _, comes_paginate (htotal.bind_ok hwindow.bind_error) hback,
          .unbounded hcounts hof hlong⟩
      | ok c' =>
        obtain ⟨rows, link'', hrows⟩ := hserves' c'
        have hfetches : Fetches _ link' rows link'' := ⟨c', hrendered, hrows⟩
        exact ⟨_, _, comes_paginate (htotal.bind_ok (hfetches.comes.bind_ok (.pure (total, rows))))
          hback, paged_of_fetched hcounts hof hfetches⟩

/-- A page of a select is fetched with its count and then its window, which bind the same. -/
theorem paginate_paged {b : Builder} (hkind : b.query.kind = .select)
    (hcolumns : Query.AllTexts b.query.columns) (settings : Settings) (page : Int)
    (asked : Option Int) {link : L} (hserves : Connection.Serves link) :
    let n := (max 1 page).toNat
    let size := settings.clamped asked
    (∃ outcome link',
      Comes (paginate settings (some (.int page)) (asked.map .int)) b link outcome b link' ∧
        Paged b n size link outcome link') ∧
    (∀ count window, (Builder.compileCount.run b).1 = .ok count →
      (Builder.compile.run (b.windowed size ((n - 1) * size))).1 = .ok window →
      b.PageOf size ((n - 1) * size) count window) ∧
    ∀ fields, Settings.ofFields fields = .ok settings →
      1 ≤ size ∧ ∀ greatest, settings.maxPageSize = some greatest → size ≤ greatest := by
  intro n size
  exact ⟨exists_paged hkind hcolumns settings page asked hserves,
    fun count window hcount hwindow => Builder.pageOf_rendered hkind hcolumns hcount hwindow,
    fun fields hfields => Settings.clamped_bounds hfields asked⟩

/-- The second page of an ordered select with a condition; it has two rows, although more are asked
for. -/
theorem paginate_paged_second :
    let b : Builder :=
      { query := { Query.fresh with
          table := .text "t", orderBy := ["id DESC"]
          wheres := [.test .and (.compare (.text "a") (.text ">") (.int 7))] }
        binder := ⟨[], 4⟩
        dialect := .ofTarget .sqlite }
    let settings : Settings := ⟨.sqlite, 20, some 2⟩
    let rows : List Row := [[(.text "id", .int 3)], [(.text "id", .int 2)]]
    let link : Direct := ⟨.fresh false [], [[[(.text "cnt", .int 5)]], rows], .int 0, .null⟩
    let fetch : Attempt (Desk Direct) Page :=
      paginate settings (some (.int 2)) ((some 50).map .int)
    (b.query.kind = .select ∧ b.query.table.truthy = true ∧ Query.AllTexts b.query.columns ∧
        Connection.Serves link) ∧
      (∃ outcome link', Comes fetch b link outcome b link' ∧ Paged b 2 2 link outcome link') ∧
      (Builder.compile.run (b.windowed 2 2)).1.toOption.map Compiled.sql =
        some "SELECT * FROM t WHERE a > :p5 ORDER BY id DESC LIMIT 2 OFFSET 2" ∧
      (fetch.run ⟨b, ⟨some link, []⟩⟩).2.line.link.map
          (fun l => l.wire.calls.map WireCall.name) =
        some ["prepare", "bind", "execute", "fetch",
          "prepare", "bind", "execute", "fetch_all"] := by
  intro b settings rows link fetch
  have hserves : Connection.Serves link := Direct.passing.serves rfl
  obtain ⟨hpaged, _⟩ :=
    paginate_paged (b := b) rfl Query.allTexts_fresh settings 2 (some 50) hserves
  exact ⟨⟨rfl, rfl, Query.allTexts_fresh, hserves⟩, hpaged, by decide +kernel, by decide +kernel⟩

/-- The first row of the count has no cell for it: the page fails behind the first statement,
although all calls for the second one would pass. -/
theorem paginate_stops :
    let b : Builder := ⟨{ Query.fresh with table := .text "t" }, .fresh, .ofTarget .sqlite⟩
    let link : Direct := ⟨.fresh false [], [[[(.text "n", .int 5)]]], .int 0, .null⟩
    let r := (paginate .standard (some (.int 1)) (some (.int 10))).run ⟨b, ⟨some link, []⟩⟩
    b.query.kind = .select ∧ b.query.table.truthy = true ∧ Query.AllTexts b.query.columns ∧
      Connection.Serves link ∧ r.1 = .error .absentKey ∧
      r.2.line.link.map (fun l => l.wire.calls.map WireCall.name) =
        some ["prepare", "execute", "fetch"] := by
  intro b link r
  exact ⟨rfl, rfl, Query.allTexts_fresh, Direct.passing.serves rfl, rfl, by decide +kernel⟩

end Desk

end BoundSql
