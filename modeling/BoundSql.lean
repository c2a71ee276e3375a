import BoundSql.Binder.Run
import BoundSql.Condition.Tree
import BoundSql.Connection.Buffered
import BoundSql.Connection.Cursor
import BoundSql.Connection.Direct
import BoundSql.Dialect.Registry
import BoundSql.Record.Report
import BoundSql.Session.Call
import BoundSql.Session.Run
import BoundSql.Proofs.Attempt.Failures
import BoundSql.Proofs.Attempt.Keeps
import BoundSql.Proofs.Attempt.Parallel
import BoundSql.Proofs.Binary64.Rounding
import BoundSql.Proofs.Binder.Freshness
import BoundSql.Proofs.Binder.Names
import BoundSql.Proofs.Builder.Filled
import BoundSql.Proofs.Builder.Groups
import BoundSql.Proofs.Builder.Inserted
import BoundSql.Proofs.Builder.WellFormed
import BoundSql.Proofs.Catalog.Memo
import BoundSql.Proofs.Condition.Balance
import BoundSql.Proofs.Condition.Bracketing
import BoundSql.Proofs.Condition.Deletion
import BoundSql.Proofs.Condition.Draft
import BoundSql.Proofs.Condition.Joined
import BoundSql.Proofs.Condition.Present
import BoundSql.Proofs.Condition.Reading
import BoundSql.Proofs.Condition.Refusal
import BoundSql.Proofs.Condition.Tree
import BoundSql.Proofs.Condition.Void
import BoundSql.Proofs.Condition.Written
import BoundSql.Proofs.Connection.Books
import BoundSql.Proofs.Connection.Delivery
import BoundSql.Proofs.Connection.Drivers
import BoundSql.Proofs.Connection.Execute
import BoundSql.Proofs.Connection.Line
import BoundSql.Proofs.Connection.Lockstep
import BoundSql.Proofs.Connection.Passes
import BoundSql.Proofs.Connection.Refusal
import BoundSql.Proofs.Connection.Scope
import BoundSql.Proofs.Connection.Wire
import BoundSql.Proofs.Desk.Alike
import BoundSql.Proofs.Desk.Counting
import BoundSql.Proofs.Desk.PageCount
import BoundSql.Proofs.Desk.Paging
import BoundSql.Proofs.Desk.Refusal
import BoundSql.Proofs.Desk.Renders
import BoundSql.Proofs.Desk.Service
import BoundSql.Proofs.Desk.Steady
import BoundSql.Proofs.Query.Addition
import BoundSql.Proofs.Query.Calls
import BoundSql.Proofs.Query.Columns
import BoundSql.Proofs.Query.Families
import BoundSql.Proofs.Query.Image
import BoundSql.Proofs.Query.Layout
import BoundSql.Proofs.Query.Rearranged
import BoundSql.Proofs.Query.Rows
import BoundSql.Proofs.Query.Values
import BoundSql.Proofs.Session.Accounts
import BoundSql.Proofs.Session.Alike
import BoundSql.Proofs.Session.Balance
import BoundSql.Proofs.Session.Books
import BoundSql.Proofs.Session.Chain
import BoundSql.Proofs.Session.Freshness
import BoundSql.Proofs.Session.Groups
import BoundSql.Proofs.Session.Happenings
import BoundSql.Proofs.Session.Image
import BoundSql.Proofs.Session.Invariant
import BoundSql.Proofs.Session.Lasting
import BoundSql.Proofs.Session.Moments
import BoundSql.Proofs.Session.Numbers
import BoundSql.Proofs.Session.Prepared
import BoundSql.Proofs.Session.PutBack
import BoundSql.Proofs.Session.Renders
import BoundSql.Proofs.Session.Reports
import BoundSql.Proofs.Session.Rows
import BoundSql.Proofs.Session.Run
import BoundSql.Proofs.Session.Steady
import BoundSql.Proofs.Session.Upheld
import BoundSql.Proofs.Session.WellFormed
import BoundSql.Proofs.Settings
import BoundSql.Proofs.Statement.Alike
import BoundSql.Proofs.Statement.Balance
import BoundSql.Proofs.Statement.Bindings
import BoundSql.Proofs.Statement.Bounds
import BoundSql.Proofs.Statement.Guard
import BoundSql.Proofs.Statement.Image
import BoundSql.Proofs.Statement.Issued
import BoundSql.Proofs.Statement.Layout
import BoundSql.Proofs.Statement.Refusal
import BoundSql.Proofs.Statement.Select
import BoundSql.Proofs.Statement.Tuples
import BoundSql.Proofs.Connection.Autocommit
