import BoundSql.Condition.Expression

/-!
# Condition trees

The conditions of a statement as callers think of them: a row of nodes, each a test or a group of
further nodes, with its connector. The flat list of a tree is its bracketing; its text is defined
by recursion, with groups that hold no test taken out beforehand.
-/

namespace BoundSql

/-- A test or a group, with the connector that joins it to what stands before it. -/
inductive Node where
  | test (connector : Connector) (test : Test)
  | group (connector : Connector) (members : List Node)

namespace Node

/-- The connector of a node. -/
def connector : Node → Connector
  | test c _ | group c _ => c

mutual

/-- The flat list of a node. -/
def tokens : Node → List Token
  | test c t => [.test c t]
  | group c members => .opening c :: (tokensAll members ++ [.closing])

/-- The flat list of a row of nodes. -/
def tokensAll : List Node → List Token
  | [] => []
  | node :: rest => tokens node ++ tokensAll rest

end

mutual

/-- The node without the groups that hold no test; nothing is left of such a group itself. -/
def prune : Node → List Node
  | test c t => [test c t]
  | group c members =>
    match pruneAll members with
    | [] => []
    | kept => [group c kept]

/-- A row of nodes without the groups that hold no test. -/
def pruneAll : List Node → List Node
  | [] => []
  | node :: rest => prune node ++ pruneAll rest

end

mutual

/-- The text of a node without its connector. -/
def text (d : Dialect) : Node → Attempt Binder String
  | test _ t => do .ofExcept (← Expression.body d t).write
  | group _ members => do return "(" ++ (← textAll d true members) ++ ")"

/-- The text of a row of nodes; the first one of a whole row stands without its connector. -/
def textAll (d : Dialect) (first : Bool) : List Node → Attempt Binder String
  | [] => pure ""
  | node :: rest => do
    let own ← text d node
    let others ← textAll d false rest
    pure ((if first then own else " " ++ node.connector.text ++ " " ++ own) ++ others)

end

/-- The flat list of a row of nodes is put together from those of its parts. -/
theorem tokensAll_append (left right : List Node) :
    tokensAll (left ++ right) = tokensAll left ++ tokensAll right := by
  induction left with
  | nil => rfl
  | cons node rest ih => simp [tokensAll, ih]

end Node

end BoundSql
