import BoundSql.Proofs.Condition.Balance

/-!
# What an expression holds

An expression holds the text of every test of its list, one behind the other in the order of the
list. A group is taken back only when nothing but empty texts was written in it, so nothing else is
lost. A list without tests, however it is grouped, makes an empty expression.
-/

namespace BoundSql.Expression

open Attempt Token

/-- Parts stand in a text one behind the other. -/
inductive InOrder : List String → String → Prop
  /-- No parts stand in any text. -/
  | nil (text : String) : InOrder [] text
  /-- The first part stands in front of the others. -/
  | cons (before part : String) {parts : List String} {after : String} (h : InOrder parts after) :
    InOrder (part :: parts) (before ++ part ++ after)

namespace InOrder

variable {parts more : List String} {text other : String}

/-- A text in front changes no order. -/
theorem append_left (h : InOrder parts text) (before : String) :
    InOrder parts (before ++ text) := by
  cases h with
  | nil => exact .nil _
  | cons first part h =>
    rw [← String.append_assoc, ← String.append_assoc]
    exact .cons (before ++ first) part h

/-- Parts of two texts stand in the one text behind the other. -/
theorem append (h : InOrder parts text) (h' : InOrder more other) :
    InOrder (parts ++ more) (text ++ other) := by
  induction h with
  | nil text => exact h'.append_left text
  | cons before part _ ih =>
    rw [String.append_assoc]
    exact .cons before part ih

theorem append_right (h : InOrder parts text) (after : String) : InOrder parts (text ++ after) := by
  have hboth := h.append (.nil after)
  rwa [List.append_nil] at hboth

/-- A part occurs behind any text. -/
theorem singleton (before part : String) : InOrder [part] (before ++ part) := by
  have hpart := InOrder.cons before part (.nil "")
  rwa [String.append_empty] at hpart

/-- A text in which a part stands that is not empty is not empty. -/
theorem ne_empty (h : InOrder parts text) {part : String} (hm : part ∈ parts) (hpart : part ≠ "") :
    text ≠ "" := by
  induction h with
  | nil => cases hm
  | cons before first _ ih =>
    intro hempty
    simp only [String.append_eq_empty_iff] at hempty
    rcases List.mem_cons.mp hm with rfl | hm
    · exact hpart hempty.1.2
    · exact ih hm hempty.2

/-- What stands in the empty text stands in any text. -/
theorem of_empty (h : InOrder parts "") (text : String) : InOrder parts text := by
  have htext := h.append_left text
  rwa [String.append_empty] at htext

/-- Each of the parts stands in the text. -/
theorem occurs (h : InOrder parts text) {part : String} (hm : part ∈ parts) :
    ∃ before after, text = before ++ part ++ after := by
  induction h with
  | nil => cases hm
  | @cons before first _ after _ ih =>
    rcases List.mem_cons.mp hm with rfl | hm
    · exact ⟨before, after, rfl⟩
    · obtain ⟨front, back, rfl⟩ := ih hm
      refine ⟨before ++ first ++ front, back, ?_⟩
      simp only [String.append_assoc]

end InOrder

/-- The texts of the tests of a list, written from where the counter stands at `c`. -/
def texts (d : Dialect) (c : Nat) : List Token → List String
  | [] => []
  | .test _ t :: rest => (written d c t).plain :: texts d (c + t.values.length) rest
  | _ :: rest => texts d c rest

/-- A text that is being written holds the texts of the tests so far: what stands outside of the
innermost open group those from before it was opened, and what was written in it the others. -/
def Holds (parts : List String) (text : String) : List OpenGroup → Prop
  | [] => InOrder parts text
  | g :: outer => ∃ front back opening added, parts = front ++ back ∧
      g.opened = g.before ++ opening ∧ text = g.opened ++ added ∧ InOrder back added ∧
      Holds front g.before outer

/-- What is written behind a text adds what it holds. -/
theorem Holds.append {parts more : List String} {text added : String} {groups : List OpenGroup}
    (h : Holds parts text groups) (h' : InOrder more added) :
    Holds (parts ++ more) (text ++ added) groups := by
  cases groups with
  | nil => exact InOrder.append h h'
  | cons g outer =>
    obtain ⟨front, back, opening, inside, rfl, hopened, rfl, hinside, houter⟩ := h
    refine ⟨front, back ++ more, opening, inside ++ added, List.append_assoc .., hopened,
      String.append_assoc .., hinside.append h', houter⟩

/-- A part is written behind the text, with a blank or without. -/
theorem append_eq (text part : String) : ∃ blank, append text part = text ++ (blank ++ part) := by
  unfold Expression.append
  split
  · exact ⟨"", by rw [String.empty_append]⟩
  · exact ⟨" ", String.append_assoc ..⟩

variable {d : Dialect} {clause : String} {p q : Progress} {parts : List String}

/-- A test that is added occurs behind all others. -/
theorem holds_addTest {connector : Connector} {body : Value}
    (h : Holds parts p.text p.groups) (hrun : addTest connector body p = .ok q) :
    Holds (parts ++ [body.plain]) q.text q.groups := by
  obtain rfl := addTest_eq_ok hrun
  generalize (if p.first then "" else connector.text ++ " ") = lead
  obtain ⟨blank, htext⟩ := append_eq p.text (lead ++ body.plain)
  dsimp only
  have hassoc : blank ++ (lead ++ body.plain) = blank ++ lead ++ body.plain :=
    String.append_assoc.symm
  rw [htext, hassoc]
  exact h.append (.singleton _ body.plain)

/-- Opening a group hides no part. -/
theorem holds_openGroup (connector : Connector) (h : Holds parts p.text p.groups) :
    Holds parts (openGroup connector p).text (openGroup connector p).groups := by
  obtain ⟨blank, htext⟩ := append_eq p.text (if p.first then "(" else connector.text ++ " (")
  exact ⟨parts, [], _, "", (List.append_nil _).symm, htext, (String.append_empty ..).symm, .nil "",
    h⟩

/-- A group that is taken back held nothing but empty texts. -/
theorem holds_closeGroup (h : Holds parts p.text p.groups)
    (hrun : closeGroup clause p = .ok q) : Holds parts q.text q.groups := by
  unfold closeGroup at hrun
  split at hrun
  · cases hrun
  · rename_i g outer hgroups
    rw [hgroups] at h
    obtain ⟨front, back, opening, added, rfl, hopened, htext, hinside, houter⟩ := h
    split at hrun
    · rename_i hbare
      cases hrun
      have hadded : added = "" := by
        rw [htext] at hbare
        simpa using hbare
      have hkept := houter.append (hadded ▸ hinside)
      rwa [String.append_empty] at hkept
    · cases hrun
      have hclosed : p.text ++ ")" = g.before ++ (opening ++ added ++ ")") := by
        rw [htext, hopened]
        simp only [String.append_assoc]
      dsimp only
      rw [hclosed]
      exact houter.append ((hinside.append_left opening).append_right ")")

/-- One member adds the text of its test, if it is one. -/
theorem holds_step {token : Token} {b b' : Binder} (h : Holds parts p.text p.groups)
    (hrun : (step d clause p token).run b = (.ok q, b')) :
    Holds (parts ++ texts d b.counter [token]) q.text q.groups := by
  cases token with
  | test connector t =>
    obtain ⟨body, mid, hbody, hadd⟩ := run_bind_eq_ok hrun
    obtain ⟨rfl, _⟩ := run_body_eq_ok hbody
    exact holds_addTest h (run_ofExcept_eq_ok hadd).1
  | opening connector =>
    cases hrun
    have hnone : texts d b.counter [.opening connector] = [] := rfl
    rw [hnone, List.append_nil]
    exact holds_openGroup connector h
  | closing =>
    have hnone : texts d b.counter [.closing] = [] := rfl
    rw [hnone, List.append_nil]
    exact holds_closeGroup h (run_ofExcept_eq_ok hrun).1
  | foreign s => cases hrun

theorem texts_cons (c : Nat) (token : Token) (rest : List Token) :
    texts d c (token :: rest) = texts d c [token] ++ texts d (c + token.values.length) rest := by
  cases token <;> rfl

/-- A pass adds the texts of its tests, in order. -/
theorem holds_steps {tokens : List Token} {b b' : Binder} (h : Holds parts p.text p.groups)
    (hrun : (steps d clause p tokens).run b = (.ok q, b')) :
    Holds (parts ++ texts d b.counter tokens) q.text q.groups := by
  induction tokens generalizing p parts b with
  | nil =>
    cases hrun
    rwa [texts, List.append_nil]
  | cons token rest ih =>
    obtain ⟨mid, b₁, hstep, hrest⟩ := run_bind_eq_ok hrun
    have hcounter : b₁.counter = b.counter + token.values.length := by
      rw [binds_step d clause p token b mid b₁ hstep, Binder.counter_bindAll]
    rw [texts_cons, ← hcounter, ← List.append_assoc]
    exact ih (holds_step h hstep) hrest

/-- An expression holds the texts of all its tests, in order. -/
theorem inOrder_render {tokens : List Token} {b b' : Binder} {e : String}
    (h : (render d clause tokens).run b = (.ok e, b')) : InOrder (texts d b.counter tokens) e := by
  obtain ⟨p, b₁, hsteps, hdone⟩ := run_bind_eq_ok h
  have hstart : Holds [] Progress.start.text Progress.start.groups := InOrder.nil ""
  have hholds := holds_steps hstart hsteps
  split at hdone
  · rename_i hgroups
    cases hdone
    rw [List.isEmpty_iff.mp hgroups] at hholds
    exact hholds
  · cases hdone

/-- A clause holds what its expression holds. -/
theorem inOrder_renderClause {keyword : String} {tokens : List Token} {guarded : Bool}
    {b b' : Binder} {text : String}
    (h : (renderClause d keyword tokens guarded).run b = (.ok text, b')) :
    InOrder (texts d b.counter tokens) text := by
  obtain ⟨expression, mid, hrender, hclause⟩ := run_bind_eq_ok h
  have hholds := inOrder_render hrender
  split at hclause
  · cases hclause
    exact hholds.append_left _
  · rename_i hempty
    rw [not_not.mp hempty] at hholds
    exact hholds.of_empty text

/-- A test stands among the texts of its list, written from where the counter stands by then. -/
theorem mem_texts {connector : Connector} {t : Test} {tokens : List Token}
    (h : .test connector t ∈ tokens) (c : Nat) : ∃ k, (written d k t).plain ∈ texts d c tokens := by
  induction tokens generalizing c with
  | nil => cases h
  | cons token rest ih =>
    rw [texts_cons]
    rcases List.mem_cons.mp h with rfl | hm
    · exact ⟨c, List.mem_append_left _ (List.mem_singleton_self _)⟩
    · obtain ⟨k, hk⟩ := ih hm (c + token.values.length)
      exact ⟨k, List.mem_append_right _ hk⟩

/-- Nothing is written but groups that were opened one inside the other. -/
def Bare (text : String) : List OpenGroup → Prop
  | [] => text = ""
  | g :: outer => text = g.opened ∧ Bare g.before outer

/-- What is no test adds no text of its own. -/
theorem bare_step {token : Token} {b b' : Binder} (ht : ¬token.IsTest) (h : Bare p.text p.groups)
    (hrun : (step d clause p token).run b = (.ok q, b')) : Bare q.text q.groups := by
  cases token with
  | test connector t => exact absurd ⟨connector, t, rfl⟩ ht
  | opening connector =>
    cases hrun
    exact ⟨rfl, h⟩
  | closing =>
    have hclose := (run_ofExcept_eq_ok hrun).1
    unfold closeGroup at hclose
    split at hclose
    · cases hclose
    · rename_i g outer hgroups
      rw [hgroups] at h
      rw [if_pos h.1] at hclose
      cases hclose
      exact h.2
  | foreign s => cases hrun

/-- Without tests no text is added. -/
theorem bare_steps {tokens : List Token} {b b' : Binder} (ht : ∀ token ∈ tokens, ¬token.IsTest)
    (h : Bare p.text p.groups) (hrun : (steps d clause p tokens).run b = (.ok q, b')) :
    Bare q.text q.groups := by
  induction tokens generalizing p b with
  | nil =>
    cases hrun
    exact h
  | cons token rest ih =>
    obtain ⟨mid, b₁, hstep, hrest⟩ := run_bind_eq_ok hrun
    have hmid := bare_step (ht token List.mem_cons_self) h hstep
    exact ih (fun token hm => ht token (List.mem_cons_of_mem _ hm)) hmid hrest

/-- A list without tests makes an empty expression, however it is grouped. -/
theorem render_eq_empty {tokens : List Token} {b b' : Binder} {e : String}
    (ht : ∀ token ∈ tokens, ¬token.IsTest)
    (h : (render d clause tokens).run b = (.ok e, b')) : e = "" := by
  obtain ⟨p, b₁, hsteps, hdone⟩ := run_bind_eq_ok h
  have hstart : Bare Progress.start.text Progress.start.groups := rfl
  have hbare := bare_steps ht hstart hsteps
  split at hdone
  · rename_i hgroups
    cases hdone
    rw [List.isEmpty_iff.mp hgroups] at hbare
    exact hbare
  · cases hdone

/-- A list without tests binds nothing. -/
theorem values_eq_nil {tokens : List Token} (ht : ∀ token ∈ tokens, ¬token.IsTest) :
    tokens.flatMap Token.values = [] := by
  refine List.flatMap_eq_nil_iff.mpr fun token hm => ?_
  cases token with
  | test connector t => exact absurd ⟨connector, t, rfl⟩ (ht _ hm)
  | _ => rfl

end BoundSql.Expression
