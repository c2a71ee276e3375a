import BoundSql.Attempt
import BoundSql.Binder
import BoundSql.Condition
import BoundSql.Dialect

/-!
# Condition expressions

A condition list is written as a boolean expression in one pass. The pass keeps the text so far,
whether the next member is the first one of the expression or of a group (a first member is
written without its connector), and the groups that are open. A group that added nothing when it
is closed disappears together with its connector. Values are bound in the order in which their
placeholders appear.
-/

namespace BoundSql.Expression

/-- A group that is open. -/
structure OpenGroup where
  /-- The text before the group. -/
  before : String
  /-- Whether the group is the first member of what it stands in. -/
  first : Bool
  /-- The text right after the opening parenthesis. -/
  opened : String
  deriving DecidableEq, Repr

/-- How far an expression is written. -/
structure Progress where
  /-- The text so far. -/
  text : String
  /-- Whether the next member is a first one. -/
  first : Bool
  /-- The open groups, innermost first. -/
  groups : List OpenGroup
  deriving DecidableEq, Repr

/-- Nothing is written. -/
def Progress.start : Progress := ⟨"", true, []⟩

/-- Whether a part is joined without a blank: at the start and after an opening parenthesis. -/
def joinsTightly (text : String) : Bool := text == "" || text.toList.getLast? == some '('

/-- The text with one more part. -/
def append (text part : String) : String :=
  if joinsTightly text then text ++ part else text ++ " " ++ part

/-- The placeholder of a newly bound value. -/
def placeholder (d : Dialect) (value : Value) : Attempt Binder String := fun b =>
  let (name, b) := b.bind value
  (.ok (d.placeholder name), b)

/-- The text of a test; a condition written out is whatever value was given for it. -/
def body (d : Dialect) : Test → Attempt Binder Value
  | .compare column operator value => do
    let column ← .ofExcept column.write
    let operator ← .ofExcept operator.write
    let p ← placeholder d value
    pure (.text (column ++ " " ++ operator ++ " " ++ p))
  | .oneOf column values negated => do
    let ps ← Attempt.forAll values (placeholder d)
    let column ← .ofExcept column.write
    let test := if negated.truthy then "NOT IN" else "IN"
    pure (.text (column ++ " " ++ test ++ " (" ++ String.intercalate "," ps ++ ")"))
  | .raw sql => pure sql

/-- Write a test. A first one has to be a text; after a connector any value is written as text. -/
def addTest (connector : Connector) (body : Value) (p : Progress) : Except Failure Progress :=
  if p.first then
    match body with
    | .text s => .ok { p with text := append p.text s, first := false }
    | _ => .error .mistyped
  else do
    let part := connector.text ++ " " ++ (← body.write)
    return { p with text := append p.text part, first := false }

/-- Open a group. -/
def openGroup (connector : Connector) (p : Progress) : Progress :=
  let opened := append p.text (if p.first then "(" else connector.text ++ " (")
  ⟨opened, true, ⟨p.text, p.first, opened⟩ :: p.groups⟩

/-- Close the innermost group, or take it back when nothing was written in it. -/
def closeGroup (clause : String) (p : Progress) : Except Failure Progress :=
  match p.groups with
  | [] => .error (.unmatchedClose clause)
  | g :: outer =>
    if p.text = g.opened then .ok ⟨g.before, g.first, outer⟩
    else .ok ⟨p.text ++ ")", false, outer⟩

/-- Write one token. -/
def step (d : Dialect) (clause : String) (p : Progress) : Token → Attempt Binder Progress
  | .test connector test => do .ofExcept (addTest connector (← body d test) p)
  | .opening connector => pure (openGroup connector p)
  | .closing => .ofExcept (closeGroup clause p)
  | .foreign _ => .fail .foreignToken

/-- Write a list of tokens from where an expression stands. -/
def steps (d : Dialect) (clause : String) (p : Progress) : List Token → Attempt Binder Progress
  | [] => pure p
  | token :: rest => do steps d clause (← step d clause p token) rest

/-- The expression of a condition list; empty when nothing renders. -/
def render (d : Dialect) (clause : String) (tokens : List Token) : Attempt Binder String := do
  let p ← steps d clause .start tokens
  if p.groups.isEmpty then pure p.text
  else .fail (.unclosedGroups clause p.groups.length)

/-- A clause with its keyword. An empty expression leaves the clause out, or keeps it with a
condition that is never true when the clause is a guard. -/
def renderClause (d : Dialect) (keyword : String) (tokens : List Token) (guarded : Bool) :
    Attempt Binder String := do
  let expression ← render d keyword tokens
  if expression ≠ "" then pure (keyword ++ " " ++ expression)
  else if guarded then pure (keyword ++ " " ++ Test.alwaysFalse)
  else pure ""

end BoundSql.Expression
