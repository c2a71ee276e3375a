import BoundSql.Condition.Tree
import BoundSql.Proofs.Condition.Written

/-!
# The pass over a flat list writes the text of its tree

The pass has no tree: it keeps a text, a flag and saved texts. While every test comes out as a solid
text, the flag says exactly that the text ends where no blank is needed, and the bracketing of a row
of nodes adds the recursive text of the pruned row and nothing else. A group without tests adds the
empty text, so the pass stands where it stood before the group.
-/

namespace BoundSql

namespace Expression

/-- A text that is there and does not end like the start of a group. -/
def Solid (s : String) : Prop := s ≠ "" ∧ s.toList.getLast? ≠ some '('

/-- Exactly the solid texts want a blank after them. -/
theorem joinsTightly_eq_false_iff_solid {s : String} : joinsTightly s = false ↔ Solid s :=
  joinsTightly_eq_false_iff

/-- A text is solid when its last part is. -/
theorem Solid.append (s : String) {t : String} (h : Solid t) : Solid (s ++ t) := by
  rw [← joinsTightly_eq_false_iff_solid] at h ⊢
  rw [joinsTightly_append s (joinsTightly_eq_false_iff.mp h).1, h]

/-- Rendered one after another from a binder, all tests come out as solid texts. -/
def SolidFrom (d : Dialect) : Binder → List Test → Prop
  | _, [] => True
  | b, t :: rest =>
    (∃ s, ((body d t).run b).1 = .ok (.text s) ∧ Solid s) ∧ SolidFrom d ((body d t).run b).2 rest

/-- Tests come out as solid texts if they can be written and what is written is solid. -/
theorem solidFrom_cons {d : Dialect} {b : Binder} {t : Test} {rest : List Test} :
    SolidFrom d b (t :: rest) ↔ t.isWritable = true ∧
      (∃ s, written d b.counter t = .text s ∧ Solid s) ∧ SolidFrom d (b.bindAll t.values) rest := by
  constructor
  · rintro ⟨⟨s, hbody, hsolid⟩, hrest⟩
    have ht : t.isWritable = true := isWritable_of_run_body hbody rfl
    rw [run_body ht] at hbody hrest
    exact ⟨ht, ⟨s, Except.ok.inj hbody, hsolid⟩, hrest⟩
  · rintro ⟨ht, ⟨s, hwritten, hsolid⟩, hrest⟩
    rw [SolidFrom, run_body ht, hwritten]
    exact ⟨⟨s, rfl, hsolid⟩, hrest⟩

theorem solidFrom_append {d : Dialect} {b : Binder} {ts us : List Test} :
    SolidFrom d b (ts ++ us) ↔
      SolidFrom d b ts ∧ SolidFrom d (b.bindAll (ts.flatMap Test.values)) us := by
  induction ts generalizing b with
  | nil => simp [SolidFrom]
  | cons t ts ih =>
    simp only [List.cons_append, solidFrom_cons, ih, List.flatMap_cons, Binder.bindAll_append,
      and_assoc]

/-- A comparison comes out solid whenever its placeholder does not end like the start of a group. -/
theorem solid_compare {d : Dialect} {c : Nat}
    (h : (d.placeholder (Binder.nameOf (c + 1))).toList.getLast? ≠ some '(')
    (column operator value : Value) :
    ∃ s, written d c (.compare column operator value) = .text s ∧ Solid s := by
  refine ⟨_, rfl, ?_⟩
  by_cases hp : d.placeholder (Binder.nameOf (c + 1)) = ""
  · rw [hp, String.append_empty]
    exact Solid.append _ ⟨by decide, by decide⟩
  · exact Solid.append _ ⟨hp, h⟩

/-- A test against several values always comes out solid. -/
theorem solid_oneOf (d : Dialect) (c : Nat) (column : Value) (values : List Value)
    (negated : Value) : ∃ s, written d c (.oneOf column values negated) = .text s ∧ Solid s :=
  ⟨_, rfl, Solid.append _ ⟨by decide, by decide⟩⟩

/-- In a closed dialect only conditions written out can fail to be solid. -/
theorem solidFrom_of_closed {d : Dialect} (hd : d.Closed) {ts : List Test}
    (hwritable : ∀ t ∈ ts, t.isWritable = true)
    (hraw : ∀ sql, .raw sql ∈ ts → ∃ s, sql = .text s ∧ Solid s) (b : Binder) :
    SolidFrom d b ts := by
  induction ts generalizing b with
  | nil => trivial
  | cons t ts ih =>
    have hrest := ih (fun t hm => hwritable t (List.mem_cons_of_mem _ hm))
      (fun sql hm => hraw sql (List.mem_cons_of_mem _ hm)) (b.bindAll t.values)
    refine solidFrom_cons.mpr ⟨hwritable t List.mem_cons_self, ?_, hrest⟩
    cases t with
    | compare column operator value => exact solid_compare (hd _) column operator value
    | oneOf column values negated => exact solid_oneOf d b.counter column values negated
    | raw sql => exact hraw sql List.mem_cons_self

/-- The flag says exactly that no blank is needed after the text. -/
def Progress.Settled (p : Progress) : Prop := p.first = joinsTightly p.text

/-- The progress after a member, or nothing at all, was written. -/
def Progress.write (p : Progress) (s : String) : Progress :=
  if s = "" then p else ⟨p.text ++ s, false, p.groups⟩

theorem Progress.settled_start : Progress.start.Settled := rfl

/-- Writing nothing or a solid text keeps the flag exact. -/
theorem Progress.Settled.write {p : Progress} (h : p.Settled) {s : String}
    (hs : s ≠ "" → Solid s) : (p.write s).Settled := by
  unfold Progress.write
  split
  · exact h
  · rename_i hne
    exact (joinsTightly_eq_false_iff_solid.mpr (Solid.append p.text (hs hne))).symm

/-- Writing in two parts is writing their concatenation. -/
theorem Progress.write_write (p : Progress) (s t : String) :
    (p.write s).write t = p.write (s ++ t) := by
  by_cases hs : s = ""
  · simp [Progress.write, hs]
  · by_cases ht : t = ""
    · simp [Progress.write, ht]
    · simp [Progress.write, hs, ht, String.append_assoc]

/-- What stands before a member: nothing for a first one, otherwise its connector between blanks. -/
def lead (first : Bool) (connector : Connector) : String :=
  if first then "" else " " ++ connector.text ++ " "

/-- A solid test is written after its lead. -/
theorem addTest_settled {p : Progress} (h : p.Settled) (c : Connector) {s : String}
    (hs : Solid s) : addTest c (.text s) p = .ok (p.write (lead p.first c ++ s)) := by
  have hne : lead p.first c ++ s ≠ "" := (Solid.append _ hs).1
  rw [Progress.write, if_neg hne]
  unfold Progress.Settled at h
  cases hf : p.first with
  | true =>
    rw [hf] at h
    simp [addTest, hf, append, ← h, lead]
  | false =>
    rw [hf] at h
    simp [addTest, hf, append, ← h, lead, String.append_assoc]

/-- A group is opened after its lead, and the progress inside it is settled. -/
theorem openGroup_settled {p : Progress} (h : p.Settled) (c : Connector) :
    openGroup c p =
      ⟨p.text ++ (lead p.first c ++ "("), true,
        ⟨p.text, p.first, p.text ++ (lead p.first c ++ "(")⟩ :: p.groups⟩ ∧
      (openGroup c p).Settled := by
  have heq : openGroup c p = ⟨p.text ++ (lead p.first c ++ "("), true,
      ⟨p.text, p.first, p.text ++ (lead p.first c ++ "(")⟩ :: p.groups⟩ := by
    unfold Progress.Settled at h
    cases hf : p.first with
    | true =>
      rw [hf] at h
      simp [openGroup, hf, append, ← h, lead]
    | false =>
      rw [hf] at h
      simp [openGroup, hf, append, ← h, lead, String.append_assoc]
  refine ⟨heq, ?_⟩
  rw [heq, Progress.Settled, ← String.append_assoc, joinsTightly_append _ (by decide)]
  rfl

/-- A group that wrote nothing is taken back; any other is closed. -/
theorem closeGroup_write (clause : String) (p : Progress) (c : Connector) (s : String) :
    closeGroup clause
        (Progress.write ⟨p.text ++ (lead p.first c ++ "("), true,
          ⟨p.text, p.first, p.text ++ (lead p.first c ++ "(")⟩ :: p.groups⟩ s) =
      .ok (p.write (if s = "" then "" else lead p.first c ++ ("(" ++ s ++ ")"))) := by
  by_cases hs : s = ""
  · simp [Progress.write, closeGroup, hs]
  · simp [Progress.write, closeGroup, hs, String.append_assoc]

end Expression

namespace Node

open Expression

mutual

/-- The tests of a node, from left to right. -/
def tests : Node → List Test
  | test _ t => [t]
  | group _ members => testsAll members

/-- The tests of a row of nodes, from left to right. -/
def testsAll : List Node → List Test
  | [] => []
  | node :: rest => tests node ++ testsAll rest

end

/-- The text of two rows is put together from theirs; the second starts afresh only if the first row
is empty. -/
theorem textAll_append (d : Dialect) (first : Bool) (left right : List Node) :
    textAll d first (left ++ right) =
      textAll d first left >>= fun x =>
        textAll d (first && left.isEmpty) right >>= fun y => pure (x ++ y) := by
  induction left generalizing first with
  | nil =>
    simp only [List.nil_append, textAll, pure_bind, List.isEmpty_nil, Bool.and_true,
      String.empty_append, bind_pure]
  | cons node rest ih =>
    simp only [List.cons_append, textAll, ih, bind_assoc, pure_bind, List.isEmpty_cons,
      Bool.and_false, Bool.false_and, String.append_assoc]

/-- The text of a single node has its lead in front. -/
theorem run_textAll_singleton {d : Dialect} {node : Node} {b b' : Binder} {s : String}
    (h : (text d node).run b = (.ok s, b')) (first : Bool) :
    (textAll d first [node]).run b = (.ok (lead first node.connector ++ s), b') := by
  simp only [textAll, Attempt.run_bind, h, Attempt.run_pure, String.append_empty]
  cases first <;> simp [lead]

/-- From a settled progress, the pass over some tokens adds the text of a row of nodes and binds the
values of that row. -/
structure Follows (d : Dialect) (clause : String) (p : Progress) (b : Binder) (tokens : List Token)
    (row : List Node) (vs : List Value) (s : String) : Prop where
  /-- Nothing is added exactly when the row is empty. -/
  empty_iff : s = "" ↔ row = []
  /-- Whatever is added is solid. -/
  solid : s ≠ "" → Solid s
  /-- The recursive text of the row is what is added. -/
  text : (textAll d p.first row).run b = (.ok s, b.bindAll vs)
  /-- The pass goes on with what follows from there. -/
  pass : ∀ rest, (steps d clause p (tokens ++ rest)).run b =
    (steps d clause (p.write s) rest).run (b.bindAll vs)

variable {d : Dialect} {clause : String} {p : Progress} {b : Binder}

theorem Follows.nil : Follows d clause p b [] [] [] "" := by
  refine ⟨by simp, by simp, rfl, fun rest => ?_⟩
  simp [Progress.write]

/-- Rows follow one another. -/
theorem Follows.append {tokens tokens' : List Token} {row row' : List Node} {vs ws : List Value}
    {s t : String} (h : Follows d clause p b tokens row vs s)
    (h' : Follows d clause (p.write s) (b.bindAll vs) tokens' row' ws t) :
    Follows d clause p b (tokens ++ tokens') (row ++ row') (vs ++ ws) (s ++ t) := by
  refine ⟨?_, ?_, ?_, fun rest => ?_⟩
  · rw [String.append_eq_empty_iff, List.append_eq_nil_iff, h.empty_iff, h'.empty_iff]
  · intro hne
    by_cases ht : t = ""
    · subst ht
      rw [String.append_empty] at hne ⊢
      exact h.solid hne
    · exact Solid.append s (h'.solid ht)
  · have hfirst : (p.first && row.isEmpty) = (p.write s).first := by
      by_cases hs : s = ""
      · simp [Progress.write, hs, h.empty_iff.mp hs]
      · have hr : row ≠ [] := fun hr => hs (h.empty_iff.mpr hr)
        simp [Progress.write, hs, hr]
    rw [textAll_append, Attempt.run_bind, h.text]
    dsimp only
    rw [hfirst, Attempt.run_bind, h'.text, Binder.bindAll_append]
    rfl
  · rw [List.append_assoc, h.pass, h'.pass, Progress.write_write, Binder.bindAll_append]

/-- A test that comes out solid is added with its lead. -/
theorem Follows.test (hp : p.Settled) (c : Connector) {t : Test} {s : String}
    (ht : t.isWritable = true) (hw : written d b.counter t = .text s) (hs : Solid s) :
    Follows d clause p b [.test c t] [.test c t] t.values (lead p.first c ++ s) := by
  have hsolid : Solid (lead p.first c ++ s) := Solid.append _ hs
  refine ⟨by simp [hsolid.1], fun _ => hsolid, ?_, fun rest => ?_⟩
  · refine run_textAll_singleton ?_ p.first
    rw [Node.text, Attempt.run_bind, run_body ht, hw]
    rfl
  · rw [List.singleton_append, steps, Attempt.run_bind, step, Attempt.run_bind, run_body ht, hw]
    dsimp only
    rw [addTest_settled hp c hs]
    rfl

/-- A group adds its members in parentheses, or nothing when none of them is left. -/
theorem Follows.group (hp : p.Settled) (c : Connector) {members : List Node} {vs : List Value}
    {s : String}
    (h : Follows d clause (openGroup c p) b (tokensAll members) (pruneAll members) vs s) :
    Follows d clause p b (Node.group c members).tokens (Node.group c members).prune vs
      (if s = "" then "" else lead p.first c ++ ("(" ++ s ++ ")")) := by
  have hopen := (openGroup_settled hp c).1
  have hpass : ∀ rest, (steps d clause p ((Node.group c members).tokens ++ rest)).run b =
      (steps d clause
        (p.write (if s = "" then "" else lead p.first c ++ ("(" ++ s ++ ")"))) rest).run
        (b.bindAll vs) := by
    intro rest
    rw [tokens, List.cons_append, List.append_assoc, steps, Attempt.run_bind]
    change (steps d clause (openGroup c p) (tokensAll members ++ ([.closing] ++ rest))).run b = _
    rw [h.pass, List.singleton_append, steps, Attempt.run_bind, step, hopen, closeGroup_write]
    rfl
  have ht := h.text
  rw [hopen] at ht
  by_cases hs : s = ""
  · rw [if_pos hs] at hpass ⊢
    have hprune : (Node.group c members).prune = [] := by simp [prune, h.empty_iff.mp hs]
    refine ⟨by simp [hprune], by simp, ?_, hpass⟩
    rw [hs, h.empty_iff.mp hs] at ht
    rw [hprune]
    exact ht
  · rw [if_neg hs] at hpass ⊢
    have hkept : pruneAll members ≠ [] := fun hk => hs (h.empty_iff.mpr hk)
    have hprune : (Node.group c members).prune = [Node.group c (pruneAll members)] := by
      rw [prune]
      split
      · contradiction
      · rfl
    have hsolid : Solid (lead p.first c ++ ("(" ++ s ++ ")")) :=
      Solid.append _ (Solid.append _ ⟨by decide, by decide⟩)
    refine ⟨by simp [hsolid.1, hprune], fun _ => hsolid, ?_, hpass⟩
    rw [hprune]
    refine run_textAll_singleton ?_ p.first
    rw [Node.text, Attempt.run_bind, ht]
    rfl

mutual

/-- The pass follows a single node. -/
theorem follows_node (node : Node) (p : Progress) (b : Binder) (hp : p.Settled)
    (hs : SolidFrom d b node.tests) :
    ∃ s, Follows d clause p b node.tokens node.prune (node.tests.flatMap Test.values) s := by
  match node with
  | .test c t =>
    obtain ⟨ht, ⟨s, hw, hsolid⟩, _⟩ := solidFrom_cons.mp hs
    exact ⟨_, by simpa [tests, tokens, prune] using Follows.test hp c ht hw hsolid⟩
  | .group c members =>
    have hsettled := (openGroup_settled hp c).2
    obtain ⟨s, h⟩ := follows_row members (openGroup c p) b hsettled hs
    exact ⟨_, h.group hp c⟩

/-- The pass follows a row of nodes. -/
theorem follows_row (nodes : List Node) (p : Progress) (b : Binder) (hp : p.Settled)
    (hs : SolidFrom d b (testsAll nodes)) :
    ∃ s, Follows d clause p b (tokensAll nodes) (pruneAll nodes)
      ((testsAll nodes).flatMap Test.values) s := by
  match nodes with
  | [] => exact ⟨"", Follows.nil⟩
  | node :: rest =>
    obtain ⟨hnode, hrest⟩ := solidFrom_append.mp hs
    obtain ⟨s, h⟩ := follows_node node p b hp hnode
    obtain ⟨t, h'⟩ := follows_row rest (p.write s) _ (hp.write h.solid) hrest
    refine ⟨s ++ t, ?_⟩
    simpa only [tokensAll, pruneAll, testsAll, List.flatMap_append] using h.append h'

end

/-- A pass that follows a whole row renders its text. -/
theorem Follows.render {vs : List Value} {tokens : List Token} {row : List Node} {s : String}
    (h : Follows d clause .start b tokens row vs s) :
    (Expression.render d clause tokens).run b = (.ok s, b.bindAll vs) := by
  have hpass := h.pass []
  rw [List.append_nil] at hpass
  rw [Expression.render, Attempt.run_bind, hpass]
  by_cases hne : s = "" <;> simp [steps, Progress.write, hne] <;> rfl

end Node

/-- Rendering the bracketing of any row of nodes succeeds and gives the recursive text of the row
without its empty groups; the values of all tests are bound from left to right. -/
theorem render_tokensAll (d : Dialect) (clause : String) (nodes : List Node) (b : Binder)
    (hs : Expression.SolidFrom d b (Node.testsAll nodes)) :
    ∃ s, (Node.textAll d true (Node.pruneAll nodes)).run b =
        (.ok s, b.bindAll ((Node.testsAll nodes).flatMap Test.values)) ∧
      (Expression.render d clause (Node.tokensAll nodes)).run b =
        (.ok s, b.bindAll ((Node.testsAll nodes).flatMap Test.values)) := by
  have hstart := Expression.Progress.settled_start
  obtain ⟨s, h⟩ : ∃ s, Node.Follows d clause .start b (Node.tokensAll nodes)
      (Node.pruneAll nodes) ((Node.testsAll nodes).flatMap Test.values) s :=
    Node.follows_row nodes .start b hstart hs
  exact ⟨s, h.text, h.render⟩

/-- Empty groups in front, inside and behind leave no trace: the row
`() OR a = 1 AND (() AND b IN (2, 3) OR (c IS NULL) OR (())) OR (())` renders as its pruned tree. -/
theorem render_tokensAll_nested :
    let nodes : List Node :=
      [.group .or [], .test .or (.compare (.text "a") (.text "=") (.int 1)),
        .group .and [.group .and [], .test .and (.oneOf (.text "b") [.int 2, .int 3] (.bool false)),
          .group .or [.test .and (.raw (.text "c IS NULL"))], .group .or [.group .and []]],
        .group .or [.group .and []]]
    Expression.SolidFrom (.ofTarget .sqlite) .fresh (Node.testsAll nodes) ∧
      ∃ s, (Node.textAll (.ofTarget .sqlite) true (Node.pruneAll nodes)).run .fresh =
          (.ok s, Binder.bindAll .fresh [.int 1, .int 2, .int 3]) ∧
        (Expression.render (.ofTarget .sqlite) "WHERE" (Node.tokensAll nodes)).run .fresh =
          (.ok s, Binder.bindAll .fresh [.int 1, .int 2, .int 3]) := by
  intro nodes
  have hs : Expression.SolidFrom (.ofTarget .sqlite) .fresh (Node.testsAll nodes) := by
    refine Expression.solidFrom_of_closed (Dialect.closed_ofTarget .sqlite) (by decide +kernel) ?_
      .fresh
    intro sql hm
    have he : sql = .text "c IS NULL" := by simpa [nodes, Node.testsAll, Node.tests] using hm
    exact ⟨_, he, by decide, by decide⟩
  exact ⟨hs, render_tokensAll (.ofTarget .sqlite) "WHERE" nodes .fresh hs⟩

/-! ### Which placeholder stands where -/

namespace Node

open Expression

mutual

/-- The text of a node, without its connector, when the counter stands at `c`. -/
def spelled (d : Dialect) (c : Nat) : Node → String
  | test _ t => (written d c t).plain
  | group _ members => "(" ++ spelledAll d true c members ++ ")"

/-- The text of a row of nodes when the counter stands at `c`: every node finds the counter moved on
by the number of values to its left. -/
def spelledAll (d : Dialect) (first : Bool) (c : Nat) : List Node → String
  | [] => ""
  | node :: rest =>
    lead first node.connector ++ spelled d c node ++
      spelledAll d false (c + (node.tests.flatMap Test.values).length) rest

end

mutual

/-- Whenever a node has a text, the counter says which. -/
theorem spelled_of_text {d : Dialect} (node : Node) {b b' : Binder} {s : String}
    (h : (text d node).run b = (.ok s, b')) :
    s = node.spelled d b.counter ∧ b' = b.bindAll (node.tests.flatMap Test.values) := by
  match node with
  | .test c t =>
    obtain ⟨v, mid, hbody, hwrite⟩ := Attempt.run_bind_eq_ok h
    obtain ⟨rfl, rfl⟩ := run_body_eq_ok hbody
    obtain ⟨hs, rfl⟩ := Attempt.run_ofExcept_eq_ok hwrite
    exact ⟨(Value.write_eq_ok.mp hs).2.symm, by simp [tests]⟩
  | .group c members =>
    rw [text] at h
    obtain ⟨inner, b₁, hinner, hrest⟩ := Attempt.run_bind_eq_ok h
    cases hrest
    obtain ⟨rfl, rfl⟩ := spelledAll_of_textAll members hinner
    exact ⟨rfl, rfl⟩

/-- Whenever a row of nodes has a text, the counter says which. -/
theorem spelledAll_of_textAll {d : Dialect} {first : Bool} (nodes : List Node) {b b' : Binder}
    {s : String} (h : (textAll d first nodes).run b = (.ok s, b')) :
    s = spelledAll d first b.counter nodes ∧
      b' = b.bindAll ((testsAll nodes).flatMap Test.values) := by
  match nodes with
  | [] =>
    cases h
    exact ⟨rfl, rfl⟩
  | node :: rest =>
    rw [textAll] at h
    obtain ⟨own, b₁, hown, h⟩ := Attempt.run_bind_eq_ok h
    obtain ⟨others, b₂, hothers, h⟩ := Attempt.run_bind_eq_ok h
    obtain ⟨rfl, rfl⟩ := spelled_of_text node hown
    obtain ⟨rfl, rfl⟩ := spelledAll_of_textAll rest hothers
    cases h
    rw [Binder.counter_bindAll, spelledAll, testsAll, List.flatMap_append, Binder.bindAll_append]
    cases first <;> simp [lead]

end

end Node

/-- The placeholders of the rendered row are numbered on from the counter, from left to right
through all groups, and their names are bound to the values of its tests in the same order. -/
theorem render_tokensAll_numbered (d : Dialect) (clause : String) (nodes : List Node) {b : Binder}
    (hb : b.Live) (hs : Expression.SolidFrom d b (Node.testsAll nodes)) :
    let values := (Node.testsAll nodes).flatMap Test.values
    ∃ b', (Expression.render d clause (Node.tokensAll nodes)).run b =
        (.ok (Node.spelledAll d true b.counter (Node.pruneAll nodes)), b') ∧
      b'.counter = b.counter + values.length ∧
      b'.params = b.params ++ (Binder.issued b.counter values.length).zip values := by
  intro values
  obtain ⟨s, h⟩ : ∃ s, Node.Follows d clause .start b (Node.tokensAll nodes)
      (Node.pruneAll nodes) values s :=
    Node.follows_row nodes .start b Expression.Progress.settled_start hs
  obtain ⟨rfl, _⟩ := Node.spelledAll_of_textAll (Node.pruneAll nodes) h.text
  exact ⟨b.bindAll values, h.render, b.counter_bindAll values, hb.params_bindAll values⟩

example :
    let test := fun (column : String) (values : List Value) =>
      Node.test .and (.oneOf (.text column) values (.bool false))
    Node.spelledAll (.ofTarget .sqlite) true 7
        [test "a" [.int 1], .group .or [test "b" [.int 2, .int 3], test "c" [.null]],
          test "d" [.int 4]] =
      "a IN (:p8) OR (b IN (:p9,:p10) AND c IN (:p11)) AND d IN (:p12)" := by
  decide +kernel

end BoundSql
