import BoundSql.Desk
import BoundSql.Settings

/-!
# Pages

A page is a window of the rows of a select, with the total over all pages. The total comes from
the count of the select, the rows from the select with the bounds of the window; both run on the
builder, which afterwards stands as it stood before, whether they succeed or fail.
-/

namespace BoundSql

/-- One page of rows. -/
structure Page where
  /-- The rows of the page. -/
  items : List Row
  /-- The number of rows, or groups, of all pages. -/
  total : Int
  /-- The number of the page, from one. -/
  page : Int
  /-- The greatest number of rows on a page. -/
  perPage : Int
  /-- The number of pages. -/
  pageCount : Int
  deriving Repr

namespace Page

/-- Whether a page comes before this one. -/
def hasPrevious (p : Page) : Bool := 1 < p.page

/-- Whether a page comes after this one. -/
def hasNext (p : Page) : Bool := p.page < p.pageCount

/-- The step of a path at a key; a truth value is the index that it equals. -/
def keyStep : Value → String
  | .bool b => toString b.toNat
  | key => key.plain

/-- The issues of rows whose column names are no texts. -/
def rowIssues (rows : List Row) : List Record.Issue :=
  rows.zipIdx.flatMap fun (row, i) =>
    (Entries.keys row).filterMap fun key =>
      match key with
      | .text _ => none
      | _ => some ⟨["items", toString i, keyStep key, "[key]"], .notText, key⟩

/-- Make a page; the names of columns must be texts and the page size an integer. -/
def ofParts (items : List Row) (total page : Int) (size : Number) (pageCount : Int) :
    Except Failure Page :=
  let perPage := Record.integer size.value
  match rowIssues items, perPage with
  | [], .ok perPage => .ok ⟨items, total, page, perPage, pageCount⟩
  | issues, _ => .error (.invalid ⟨"Page", issues ++ Record.issue "per_page" size.value perPage⟩)

end Page

namespace Desk

variable {L : Type} [Connection L]

/-- Run the count of the select; the builder stands afterwards as it stood before. -/
def countTotal : Attempt (Desk L) Int := do
  let row ← Attempt.preserving builderPart do
    fetchFirst (← runCompiled (← Builder.compileCount.within builderPart))
  let total ← .ofExcept (countOf row)
  let grouped := (← .state).builder.query.isGrouped
  (Line.report (.paginateCount grouped total)).within linePart
  pure total

/-- The rows of a window of the select. -/
def window (size : Number) (before : Int) : Attempt (Desk L) (List Row) := do
  ((Clause.limit size.value).apply).within queryPart
  let start ← .ofExcept (size.scaled before)
  ((Clause.offset start.value).apply).within queryPart
  get

/-- Fetch a page: the first one unless another is asked for, of the size that the settings allow. -/
def paginate (settings : Settings) (page perPage : Option Value) : Attempt (Desk L) Page := do
  let page := max 1 (← .ofExcept (page.getD (.int 1)).toInteger)
  let size ← .ofExcept (settings.pageSize (perPage.getD .null))
  let (total, rows) ← Attempt.preserving builderPart do
    let total ← countTotal
    let rows ← window size (page - 1)
    pure (total, rows)
  let pageCount ← .ofExcept (size.quotientCeil total)
  .ofExcept (Page.ofParts rows total page size pageCount)

end Desk

end BoundSql
