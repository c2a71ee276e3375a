import BoundSql.Condition.Tree

/-!
# Conditions without text

A condition written out may have no text. It binds nothing, but it takes the place of a first
member, and behind another member it brings its connector. A row is quiet if nothing is written of
it, and tidy if it is quiet wherever it holds such a condition, and so are the groups in it.
-/

namespace BoundSql

/-- Whether a test is a condition written out without text. -/
def Test.isVoid : Test → Bool
  | .raw (.text s) => s == ""
  | _ => false

namespace Token

/-- Whether a member is a condition without text. -/
def isVoid : Token → Bool
  | .test _ t => t.isVoid
  | _ => false

/-- The list without its conditions that have no text. -/
def withoutVoids (tokens : List Token) : List Token := tokens.filter fun token => !token.isVoid

@[simp] theorem withoutVoids_append (left right : List Token) :
    withoutVoids (left ++ right) = withoutVoids left ++ withoutVoids right := List.filter_append ..

/-- A group keeps its parentheses when fragments are deleted inside of it. -/
theorem withoutVoids_group (c : Connector) (members : List Token) :
    withoutVoids (.opening c :: (members ++ [.closing])) =
      .opening c :: (withoutVoids members ++ [.closing]) := by
  simp [withoutVoids, isVoid]

/-- Conditions without text bind nothing. -/
theorem values_withoutVoids (tokens : List Token) :
    (withoutVoids tokens).flatMap Token.values = tokens.flatMap Token.values := by
  induction tokens with
  | nil => rfl
  | cons token rest ih =>
    rw [withoutVoids, List.filter_cons, List.flatMap_cons]
    cases hvoid : token.isVoid with
    | false => exact congrArg (token.values ++ ·) ih
    | true =>
      have hnone : token.values = [] := by
        cases token with
        | test c t => cases t <;> first | rfl | cases hvoid
        | _ => rfl
      rw [hnone]
      exact ih

end Token

namespace Node

/-- Whether a node is a condition without text. -/
def isVoid : Node → Bool
  | test _ t => t.isVoid
  | group _ _ => false

mutual

/-- Whether nothing of a node is written: it is a condition without text, or a group of such nodes
with at most one condition among them. -/
def mute : Node → Bool
  | test _ t => t.isVoid
  | group _ members => muteAll members && decide (members.countP isVoid ≤ 1)

/-- Whether nothing of each node in a row is written. -/
def muteAll : List Node → Bool
  | [] => true
  | node :: rest => mute node && muteAll rest

end

/-- Whether nothing of a row is written: a second condition without text brings a connector. -/
def quiet (row : List Node) : Bool := muteAll row && decide (row.countP isVoid ≤ 1)

mutual

/-- Whether each group in a node that holds a condition without text is quiet. -/
def tidy : Node → Bool
  | test _ _ => true
  | group _ members => (!members.any isVoid || quiet members) && tidyAll members

/-- Whether each group in a row that holds a condition without text is quiet. -/
def tidyAll : List Node → Bool
  | [] => true
  | node :: rest => tidy node && tidyAll rest

end

/-- Wherever a condition without text stands, in the row or in a group at any depth, nothing of the
row that it stands in is written. -/
def Tidy (row : List Node) : Prop := (row.any isVoid → quiet row) ∧ tidyAll row

instance (row : List Node) : Decidable (Tidy row) := inferInstanceAs (Decidable (_ ∧ _))

/-- Nothing of a group is written when nothing of its members is. -/
theorem mute_group (c : Connector) (members : List Node) : mute (group c members) = quiet members :=
  rfl

/-- A group is tidy exactly if its members are. -/
theorem tidy_group (c : Connector) (members : List Node) :
    tidy (group c members) ↔ Tidy members := by
  rw [tidy, Tidy, Bool.and_eq_true]
  cases members.any isVoid <;> simp

/-- An empty fragment is mute. -/
theorem mute_of_isVoid {node : Node} (h : node.isVoid) : node.mute := by
  cases node with
  | test c t => exact h
  | group c members => cases h

/-- An empty fragment is tidy. -/
theorem tidy_of_isVoid {node : Node} (h : node.isVoid) : node.tidy := by
  cases node with
  | test c t => rfl
  | group c members => cases h

variable {front : List Node} {node : Node}

@[simp] theorem any_isVoid_concat :
    (front ++ [node]).any isVoid = (front.any isVoid || node.isVoid) := by
  simp

@[simp] theorem muteAll_concat : muteAll (front ++ [node]) = (muteAll front && mute node) := by
  induction front with
  | nil => simp [muteAll]
  | cons first rest ih => simp [muteAll, ih, Bool.and_assoc]

@[simp] theorem tidyAll_concat : tidyAll (front ++ [node]) = (tidyAll front && tidy node) := by
  induction front with
  | nil => simp [tidyAll]
  | cons first rest ih => simp [tidyAll, ih, Bool.and_assoc]

/-- A row stays quiet with one more node of which nothing is written, unless that is a second
condition without text. -/
theorem quiet_concat :
    quiet (front ++ [node]) ↔
      quiet front ∧ mute node ∧ (node.isVoid → front.any isVoid = false) := by
  have hany : front.any isVoid = false ↔ front.countP isVoid = 0 := by
    rw [List.any_eq_false, List.countP_eq_zero]
  simp only [quiet, muteAll_concat, Bool.and_eq_true, decide_eq_true_eq, List.countP_append,
    List.countP_singleton, hany]
  grind

/-- A node that is written keeps its row from being quiet. -/
theorem quiet_concat_of_loud (h : node.mute = false) :
    quiet (front ++ [node]) = false := by
  rw [Bool.eq_false_iff]
  exact fun hquiet => absurd (h ▸ (quiet_concat.mp hquiet).2.1) Bool.false_ne_true

theorem Tidy.of_concat (h : Tidy (front ++ [node])) : Tidy front := by
  have hall := h.2
  rw [tidyAll_concat, Bool.and_eq_true] at hall
  refine ⟨fun hvoid => ?_, hall.1⟩
  have hquiet : quiet (front ++ [node]) := h.1 (by rw [any_isVoid_concat, hvoid]; rfl)
  exact (quiet_concat.mp hquiet).1

/-- What holds of a row if it holds of the members of each group in it holds of every row. -/
theorem row_induction {motive : List Node → Prop}
    (h : ∀ row, (∀ c members, .group c members ∈ row → motive members) → motive row)
    (row : List Node) : motive row := by
  refine h row fun c members hm => ?_
  have hsize : sizeOf members < sizeOf row := by
    have hlt := List.sizeOf_lt_of_mem hm
    simp only [group.sizeOf_spec] at hlt
    omega
  exact row_induction h members
termination_by sizeOf row

end Node

end BoundSql
