import BoundSql.Proofs.Query.Values
import BoundSql.Proofs.Statement.Layout

/-!
# The layout of an expression

The pass over a condition list is repeated on layouts, where tests leave slots for their
placeholders. The drafts it goes through have no names, no values and no dialect in them, and
filling a draft gives the progress of the pass itself. What carries this is that each open group is
a sound extension of the text before it: then the pass takes a group back exactly when its draft
does.
-/

namespace BoundSql

namespace Test

/-- The layout of a test that can be written. -/
def layout : Test → Layout
  | compare column operator _ => [.text (column.plain ++ " " ++ operator.plain ++ " "), .slot]
  | oneOf column values negated =>
    .text (column.plain ++ " " ++ (if negated.truthy then "NOT IN" else "IN") ++ " (") ::
      Layout.joined "," (List.replicate values.length [.slot]) ++ [.text ")"]
  | raw sql => .literal sql.plain

/-- Whether the text of a test is a text by type; a condition written out is any value. -/
def isText : Test → Bool
  | raw sql => sql.text?.isSome
  | _ => true

/-- The layout of a test does not depend on its values. -/
theorem layout_mapValues (f : Value → Value) (t : Test) : (t.mapValues f).layout = t.layout := by
  cases t with
  | oneOf column values negated => simp only [mapValues, layout, List.length_map]
  | _ => rfl

/-- Nor does it whether the test can be written, -/
theorem isWritable_mapValues (f : Value → Value) (t : Test) :
    (t.mapValues f).isWritable = t.isWritable := by
  cases t <;> rfl

/-- and whether its text is one by type. -/
theorem isText_mapValues (f : Value → Value) (t : Test) : (t.mapValues f).isText = t.isText := by
  cases t <;> rfl

/-- A test has a slot for each value it binds. -/
theorem slots_layout (t : Test) : t.layout.slots = t.values.length := by
  cases t with
  | compare column operator value => rfl
  | oneOf column items negated => simp [layout, Layout.slots, Layout.slots_joined, values]
  | raw sql => exact Layout.slots_literal _

/-- The layout of a test is sound. -/
theorem sound_layout (t : Test) : t.layout.Sound := by
  cases t with
  | compare column operator value =>
    exact Layout.sound_blank_slot (column.plain ++ " " ++ operator.plain)
  | oneOf column values negated => exact Layout.sound_concat _ (by decide)
  | raw sql => exact Layout.sound_literal sql.plain

/-- Filling the layout of a test gives its text. -/
theorem plain_written (d : Dialect) (c : Nat) (t : Test) :
    (Expression.written d c t).plain = t.layout.fill d c := by
  cases t with
  | compare column operator value =>
    simp [Expression.written, layout, Layout.fill]
  | oneOf column values negated =>
    simp [Expression.written, layout, Layout.fill, Layout.fill_append, Layout.fill_joined,
      Layout.fillAll_slots, String.append_assoc]
  | raw sql => simp [Expression.written, layout]

/-- The text of a test is a text by type exactly if the test says so. -/
theorem text?_written (d : Dialect) (c : Nat) (t : Test) :
    (Expression.written d c t).text? = if t.isText then some (t.layout.fill d c) else none := by
  have hplain := plain_written d c t
  cases t with
  | compare column operator value => exact congrArg some hplain
  | oneOf column values negated => exact congrArg some hplain
  | raw sql =>
    cases sql with
    | text s => exact congrArg some hplain
    | _ => rfl

end Test

/-- A group that is open in a draft. -/
structure DraftGroup where
  /-- The layout before the group. -/
  before : Layout
  /-- Whether the group is the first member of what it stands in. -/
  first : Bool
  /-- The layout right after the opening parenthesis. -/
  opened : Layout

/-- How far an expression is laid out. -/
structure Draft where
  /-- The layout so far. -/
  text : Layout
  /-- Whether the next member is a first one. -/
  first : Bool
  /-- The open groups, innermost first. -/
  groups : List DraftGroup

namespace Draft

/-- Nothing is laid out. -/
def start : Draft := ⟨[], true, []⟩

/-- The layout with one more part. -/
def append (t part : Layout) : Layout :=
  if t.tight then t ++ part else t ++ (.literal " " ++ part)

/-- Lay out a test. -/
def addTest (connector : Connector) (t : Test) (p : Draft) : Except Failure Draft :=
  if p.first && !t.isText then .error .mistyped
  else if !t.isWritable then .error .malformed
  else
    let lead := if p.first then "" else connector.text ++ " "
    .ok { p with text := append p.text (.literal lead ++ t.layout), first := false }

/-- Open a group. -/
def openGroup (connector : Connector) (p : Draft) : Draft :=
  let opened := append p.text (.literal (if p.first then "(" else connector.text ++ " ("))
  ⟨opened, true, ⟨p.text, p.first, opened⟩ :: p.groups⟩

/-- Close the innermost group, or take it back when nothing was laid out in it. -/
def closeGroup (clause : String) (p : Draft) : Except Failure Draft :=
  match p.groups with
  | [] => .error (.unmatchedClose clause)
  | g :: outer =>
    if p.text = g.opened then .ok ⟨g.before, g.first, outer⟩
    else .ok ⟨p.text ++ .literal ")", false, outer⟩

/-- Lay out one token. -/
def step (clause : String) (p : Draft) : Token → Except Failure Draft
  | .test connector t => addTest connector t p
  | .opening connector => .ok (openGroup connector p)
  | .closing => closeGroup clause p
  | .foreign _ => .error .foreignToken

/-- Lay out a list of tokens. -/
def steps (clause : String) (p : Draft) : List Token → Except Failure Draft
  | [] => .ok p
  | token :: rest => do steps clause (← step clause p token) rest

/-- The draft with the placeholders of the names issued after the counter stood at `c`. -/
def fill (d : Dialect) (c : Nat) (p : Draft) : Expression.Progress :=
  ⟨p.text.fill d c, p.first, p.groups.map fun g => ⟨g.before.fill d c, g.first, g.opened.fill d c⟩⟩

/-- Each group extends the layout before it by an opening without slots, and the layout by whatever
was laid out since, both soundly. -/
def Nested : Layout → List DraftGroup → Prop
  | t, [] => t.Sound
  | t, g :: outer =>
    (∃ added, t = g.opened ++ added ∧ added.Sound) ∧
      (∃ opening : Layout, g.opened = g.before ++ opening ∧ opening.Sound ∧ opening.slots = 0) ∧
        Nested g.before outer

theorem nested_start : Nested start.text start.groups := Layout.sound_nil

/-- What is laid out in nested groups is sound. -/
theorem Nested.sound {t : Layout} {groups : List DraftGroup} (h : Nested t groups) : t.Sound := by
  induction groups generalizing t with
  | nil => exact h
  | cons g outer ih =>
    obtain ⟨⟨added, rfl, hadded⟩, ⟨opening, hopened, hopening, _⟩, houter⟩ := h
    rw [hopened]
    exact ((ih houter).append hopening).append hadded

/-- Whatever is laid out soundly goes into the innermost group. -/
theorem Nested.append {t u : Layout} {groups : List DraftGroup} (h : Nested t groups)
    (hu : u.Sound) : Nested (t ++ u) groups := by
  cases groups with
  | nil => exact Layout.Sound.append h hu
  | cons g outer =>
    obtain ⟨⟨added, rfl, hadded⟩, hrest⟩ := h
    exact ⟨⟨added ++ u, List.append_assoc .., hadded.append hu⟩, hrest⟩

/-- A part is laid out with or without a blank before it. -/
theorem exists_append (t part : Layout) (hpart : part.Sound) :
    ∃ u, append t part = t ++ u ∧ u.Sound ∧ u.slots = part.slots := by
  unfold append
  split
  · exact ⟨part, rfl, hpart, rfl⟩
  · exact ⟨_, rfl, (Layout.sound_literal " ").append hpart, by simp⟩

theorem fill_append {d : Dialect} (hd : d.Closed) (c : Nat) {t : Layout} (ht : t.Sound)
    (part : Layout) :
    (append t part).fill d c = Expression.append (t.fill d c) (part.fill d (c + t.slots)) := by
  rw [append, Expression.append, (ht d c hd).2]
  split <;> simp [Layout.fill_append, String.append_assoc]

section Step

variable {d : Dialect} {clause : String} {p q : Draft} {c : Nat}

/-- A test is added to the text exactly where it is added to the draft. -/
theorem addTest_fill (hd : d.Closed) (hp : Nested p.text p.groups) (connector : Connector)
    {t : Test} (ht : t.isWritable = true) :
    Expression.addTest connector (Expression.written d (c + p.text.slots) t) (p.fill d c) =
      (addTest connector t p).map (fill d c) := by
  have hplain := Test.plain_written d (c + p.text.slots) t
  have htext := Test.text?_written d (c + p.text.slots) t
  have hwrite := Value.write_of_isWritable (Expression.isWritable_written ht d (c + p.text.slots))
  have happend := fill_append hd c hp.sound
  generalize Expression.written d (c + p.text.slots) t = body at hplain htext hwrite
  unfold Expression.addTest addTest
  rw [ht]
  by_cases hfirst : p.first = true
  · rw [hfirst, if_pos (show (p.fill d c).first = true from hfirst)]
    cases hstext : t.isText with
    | true =>
      rw [if_pos hstext] at htext
      obtain ⟨s, rfl⟩ : ∃ s, body = .text s := by
        cases body <;> first | exact ⟨_, rfl⟩ | cases htext
      cases htext
      simp [Except.map, fill, happend, Layout.fill_append]
    | false =>
      rw [hstext] at htext
      cases body <;> first | rfl | cases htext
  · rw [Bool.eq_false_iff.mpr hfirst, if_neg (show ¬(p.fill d c).first = true from hfirst), hwrite]
    simp [Except.map, fill, happend, hplain, Layout.fill_append]

/-- What cannot be written is added neither to the text nor to the draft. -/
theorem addTest_raw_fill (connector : Connector) {sql : Value} (h : sql.isWritable = false) :
    Expression.addTest connector sql (p.fill d c) =
      (addTest connector (.raw sql) p).map (fill d c) := by
  have hwrite : sql.write = .error .malformed := if_neg (Bool.eq_false_iff.mp h)
  have htext : sql.text? = none := by cases sql <;> first | rfl | cases h
  have hfirst : (p.fill d c).first = p.first := rfl
  unfold Expression.addTest addTest
  rw [Test.isText, Test.isWritable, htext, h, hwrite, hfirst]
  cases p.first with
  | true => cases sql <;> first | rfl | cases htext
  | false => rfl

/-- A test is written exactly where it is laid out. -/
theorem test_fill (hd : d.Closed) (hp : Nested p.text p.groups) (connector : Connector) (t : Test)
    {b : Binder} (hb : b.counter = c + p.text.slots) :
    ((Expression.step d clause (p.fill d c) (.test connector t)).run b).1 =
      (addTest connector t p).map (fill d c) := by
  have hmalformed : t.isWritable = false → t.isText = true → (∀ sql, t ≠ .raw sql) →
      ((Expression.step d clause (p.fill d c) (.test connector t)).run b).1 =
        (addTest connector t p).map (fill d c) := by
    intro ht htext hraw
    have hbody := Expression.run_body_of_unwritable ht hraw d b
    rw [Expression.step, Attempt.run_bind, addTest, ht, htext]
    rcases hrun : (Expression.body d t).run b with ⟨outcome, b'⟩
    rw [hrun] at hbody
    cases hbody
    cases p.first <;> rfl
  cases ht : t.isWritable with
  | true =>
    rw [Expression.step, Attempt.run_bind, Expression.run_body ht, hb]
    dsimp only
    rw [Attempt.run_ofExcept, addTest_fill hd hp connector ht]
  | false =>
    cases t with
    | compare column operator value => exact hmalformed ht rfl nofun
    | oneOf column values negated => exact hmalformed ht rfl nofun
    | raw sql =>
      change ((Attempt.ofExcept (Expression.addTest connector sql (p.fill d c))).run b).1 = _
      rw [Attempt.run_ofExcept, addTest_raw_fill connector ht]

/-- A group is opened in the text as in the draft. -/
theorem openGroup_fill (hd : d.Closed) (hp : Nested p.text p.groups) (connector : Connector) :
    Expression.openGroup connector (p.fill d c) = (openGroup connector p).fill d c := by
  have happend := fill_append hd c hp.sound
  simp only [Expression.openGroup, openGroup, fill, happend, Layout.fill_literal, List.map_cons]
  rfl

/-- The pass takes a group back exactly when its draft does. -/
theorem closeGroup_fill (hd : d.Closed) (hp : Nested p.text p.groups) :
    Expression.closeGroup clause (p.fill d c) = (closeGroup clause p).map (fill d c) := by
  obtain ⟨text, first, groups⟩ := p
  cases groups with
  | nil => rfl
  | cons g outer =>
    obtain ⟨⟨added, heq, hadded⟩, _⟩ := hp
    have hsame : text.fill d c = g.opened.fill d c ↔ text = g.opened := by
      have hempty := hadded.fill_eq_empty_iff hd (c + g.opened.slots)
      dsimp only at heq
      rw [heq, Layout.fill_append, String.append_eq_left_iff, hempty, List.append_right_eq_self]
    simp only [Expression.closeGroup, closeGroup, fill, List.map_cons, hsame]
    split
    · rfl
    · simp [Except.map, fill, Layout.fill_append]

/-- A step of the pass is a step of its draft, filled. -/
theorem step_fill (hd : d.Closed) (hp : Nested p.text p.groups) (token : Token) {b : Binder}
    (hb : b.counter = c + p.text.slots) :
    ((Expression.step d clause (p.fill d c) token).run b).1 =
      (step clause p token).map (fill d c) := by
  cases token with
  | test connector t => exact test_fill hd hp connector t hb
  | opening connector =>
    rw [Expression.step, openGroup_fill hd hp]
    rfl
  | closing =>
    rw [Expression.step, closeGroup_fill hd hp, step]
    cases closeGroup clause p <;> rfl
  | foreign s => rfl

/-- A test is laid out as one sound part with a slot for each of its values. -/
theorem addTest_eq_ok {connector : Connector} {t : Test} (h : addTest connector t p = .ok q) :
    ∃ part : Layout, q = { p with text := append p.text part, first := false } ∧ part.Sound ∧
      part.slots = t.values.length := by
  unfold addTest at h
  split at h
  · cases h
  · split at h
    · cases h
    · cases h
      exact ⟨_, rfl, (Layout.sound_literal _).append t.sound_layout, by simp [t.slots_layout]⟩

/-- Closing takes back the opening or keeps what was laid out behind it. -/
theorem nested_closeGroup (hp : Nested p.text p.groups) (h : closeGroup clause p = .ok q) :
    Nested q.text q.groups ∧ q.text.slots = p.text.slots := by
  obtain ⟨text, first, groups⟩ := p
  cases groups with
  | nil => cases h
  | cons g outer =>
    obtain ⟨⟨added, heq, hadded⟩, ⟨opening, hopened, hopening, hslots⟩, houter⟩ := hp
    dsimp only at heq
    simp only [closeGroup] at h
    split at h
    · rename_i hsame
      cases h
      exact ⟨houter, by simp [hsame, hopened, hslots]⟩
    · cases h
      have hclosed := (hopening.append hadded).append (Layout.sound_literal ")")
      refine ⟨?_, by simp⟩
      rw [heq, hopened, List.append_assoc, List.append_assoc, ← List.append_assoc opening]
      exact houter.append hclosed

/-- A step keeps groups nested and leaves a slot for each value it binds. -/
theorem nested_step (hp : Nested p.text p.groups) {token : Token}
    (h : step clause p token = .ok q) :
    Nested q.text q.groups ∧ q.text.slots = p.text.slots + token.values.length := by
  cases token with
  | test connector t =>
    obtain ⟨part, rfl, hpart, hslots⟩ := addTest_eq_ok h
    obtain ⟨u, happend, hu, huslots⟩ := exists_append p.text part hpart
    dsimp only
    rw [happend]
    refine ⟨hp.append hu, ?_⟩
    rw [Layout.slots_append, huslots, hslots]
    rfl
  | opening connector =>
    cases h
    obtain ⟨u, happend, hu, huslots⟩ := exists_append p.text
      (.literal (if p.first then "(" else connector.text ++ " (")) (Layout.sound_literal _)
    rw [Layout.slots_literal] at huslots
    refine ⟨⟨⟨[], by simp [openGroup], Layout.sound_nil⟩, ⟨u, happend, hu, huslots⟩, hp⟩, ?_⟩
    simp only [openGroup, happend, Layout.slots_append, huslots]
    rfl
  | closing => exact nested_closeGroup hp h
  | foreign s => cases h

/-- Laying out a list keeps groups nested and leaves a slot for each value. -/
theorem nested_steps {tokens : List Token} (hp : Nested p.text p.groups)
    (h : steps clause p tokens = .ok q) :
    Nested q.text q.groups ∧
      q.text.slots = p.text.slots + (Query.conditionValues tokens).length := by
  induction tokens generalizing p with
  | nil =>
    cases h
    exact ⟨hp, rfl⟩
  | cons token rest ih =>
    rw [steps] at h
    cases hstep : step clause p token with
    | error failure =>
      rw [hstep] at h
      cases h
    | ok mid =>
      rw [hstep] at h
      obtain ⟨hmid, hslots⟩ := nested_step hp hstep
      obtain ⟨hq, hrest⟩ := ih hmid h
      refine ⟨hq, ?_⟩
      rw [hrest, hslots, Query.conditionValues, Query.conditionValues, List.flatMap_cons,
        List.length_append]
      omega

/-- The pass over a list is that of its draft, filled. -/
theorem steps_fill (hd : d.Closed) (hp : Nested p.text p.groups) (tokens : List Token) {b : Binder}
    (hb : b.counter = c + p.text.slots) :
    ((Expression.steps d clause (p.fill d c) tokens).run b).1 =
      (steps clause p tokens).map (fill d c) := by
  induction tokens generalizing p b with
  | nil => rfl
  | cons token rest ih =>
    have hfill : ((Expression.step d clause (p.fill d c) token).run b).1 =
        (step clause p token).map (fill d c) := step_fill hd hp token hb
    rw [Expression.steps, Attempt.run_bind, steps]
    rcases hrun : (Expression.step d clause (p.fill d c) token).run b with ⟨outcome, b'⟩
    rw [hrun] at hfill
    cases hstep : step clause p token with
    | error failure =>
      rw [hstep] at hfill
      cases hfill
      rfl
    | ok mid =>
      rw [hstep] at hfill
      cases hfill
      obtain ⟨hmid, hslots⟩ := nested_step hp hstep
      refine ih hmid ?_
      rw [Expression.binds_step d clause _ token b _ b' hrun, Binder.counter_bindAll, hb, hslots]
      omega

end Step

end Draft

namespace Expression

/-- The layout of an expression. -/
def layout (clause : String) (tokens : List Token) : Except Failure Layout := do
  let p ← Draft.steps clause .start tokens
  if p.groups.isEmpty then .ok p.text else .error (.unclosedGroups clause p.groups.length)

/-- The layout of a clause with its keyword. -/
def clauseLayout (keyword : String) (tokens : List Token) (guarded : Bool) :
    Except Failure Layout := do
  let expression ← layout keyword tokens
  if expression ≠ [] then .ok (.literal (keyword ++ " ") ++ expression)
  else if guarded then .ok (.literal (keyword ++ " " ++ Test.alwaysFalse))
  else .ok []

variable {d : Dialect} {clause : String} {tokens : List Token}

/-- The layout of an expression is sound and has a slot for each value. -/
theorem layout_eq_ok {t : Layout} (h : layout clause tokens = .ok t) :
    t.Sound ∧ t.slots = (Query.conditionValues tokens).length := by
  unfold layout at h
  cases hsteps : Draft.steps clause .start tokens with
  | error failure =>
    rw [hsteps] at h
    cases h
  | ok p =>
    obtain ⟨hp, hslots⟩ := Draft.nested_steps Draft.nested_start hsteps
    have hzero : Draft.start.text.slots = 0 := rfl
    rw [hsteps] at h
    change (if p.groups.isEmpty then Except.ok p.text else _) = _ at h
    split at h
    · cases h
      exact ⟨hp.sound, by omega⟩
    · cases h

/-- An expression is its layout, filled. -/
theorem render_fill (hd : d.Closed) (clause : String) (tokens : List Token) (b : Binder) :
    ((render d clause tokens).run b).1 =
      (layout clause tokens).map (Layout.fill d b.counter) := by
  have hfill : ((steps d clause .start tokens).run b).1 =
      (Draft.steps clause .start tokens).map (Draft.fill d b.counter) :=
    Draft.steps_fill hd Draft.nested_start tokens rfl
  rw [render, Attempt.run_bind, layout]
  rcases hrun : (steps d clause .start tokens).run b with ⟨outcome, b'⟩
  rw [hrun] at hfill
  cases hfill
  cases Draft.steps clause .start tokens with
  | error failure => rfl
  | ok p =>
    obtain ⟨text, first, groups⟩ := p
    cases groups with
    | nil => rfl
    | cons g outer => simp [Except.map, Draft.fill, bind, Except.bind]

/-- The layout of a clause is sound and has a slot for each value. -/
theorem clauseLayout_eq_ok {t : Layout} {guarded : Bool}
    (h : clauseLayout clause tokens guarded = .ok t) :
    t.Sound ∧ t.slots = (Query.conditionValues tokens).length := by
  unfold clauseLayout at h
  cases hlayout : layout clause tokens with
  | error failure =>
    rw [hlayout] at h
    cases h
  | ok e =>
    obtain ⟨hsound, hslots⟩ := layout_eq_ok hlayout
    rw [hlayout] at h
    change (if e ≠ [] then _ else _) = _ at h
    split at h
    · cases h
      exact ⟨(Layout.sound_literal _).append hsound, by simp [hslots]⟩
    · rename_i he
      rw [not_ne_iff.mp he] at hslots
      split at h
      · cases h
        exact ⟨Layout.sound_literal _, by simpa using hslots⟩
      · cases h
        exact ⟨Layout.sound_nil, hslots⟩

/-- A clause is its layout, filled. -/
theorem renderClause_fill (hd : d.Closed) (keyword : String) (tokens : List Token) (guarded : Bool)
    (b : Binder) :
    ((renderClause d keyword tokens guarded).run b).1 =
      (clauseLayout keyword tokens guarded).map (Layout.fill d b.counter) := by
  have hfill := render_fill hd keyword tokens b
  rw [renderClause, Attempt.run_bind, clauseLayout]
  rcases hrun : (render d keyword tokens).run b with ⟨outcome, b'⟩
  rw [hrun] at hfill
  cases hfill
  cases hlayout : layout keyword tokens with
  | error failure => rfl
  | ok e =>
    have hempty := (layout_eq_ok hlayout).1.fill_eq_empty_iff hd b.counter
    simp only [Except.map, bind, Except.bind, ne_eq, hempty]
    split
    · simp [Layout.fill_append]
    · cases guarded <;> simp

end Expression

end BoundSql
