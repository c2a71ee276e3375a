import BoundSql.Condition.Expression
import BoundSql.Proofs.Attempt.Failures
import BoundSql.Proofs.Binder.Names

/-!
# What a single test writes

A test renders if its column and its operator can be written: its text is read off the test, the
dialect and the counter, and its values are bound in order. Expressions and their clauses bind the
values of their tests, whatever happens to groups on the way. The pass decides whether to leave a
blank by the last character of its text; `joinsTightly_append` says that only the part written last
matters.
-/

namespace BoundSql

namespace Dialect

/-- No placeholder that is ever issued ends like the start of a group. -/
def Closed (d : Dialect) : Prop :=
  ∀ n, (d.placeholder (Binder.nameOf n)).toList.getLast? ≠ some '('

/-- A placeholder between two texts is closed unless the second one ends like a group start. -/
theorem closed_between {name before after : String} (h : after.toList.getLast? ≠ some '(') :
    (between name before after).Closed := by
  intro n
  have hne : Nat.toDigits 10 n ≠ [] := Nat.toDigits_ne_nil
  have hd := Nat.isDigit_of_mem_toDigits (by decide) (by decide) (List.getLast_mem hne)
  simp only [between, Binder.nameOf, Nat.toString_eq_ofList_toDigits, String.toList_append,
    String.toList_ofList, List.getLast?_append]
  cases hl : after.toList.getLast? with
  | some c => simpa [hl] using h
  | none =>
    rw [List.getLast?_eq_some_getLast hne]
    intro he
    rw [show (Nat.toDigits 10 n).getLast hne = '(' by simpa using he] at hd
    exact absurd hd (by decide)

/-- The dialects that settings can ask for are closed. -/
theorem closed_ofTarget (t : Target) : (ofTarget t).Closed := by
  cases t <;> exact closed_between (by decide)

end Dialect

/-- Whether a test can be written: its column and its operator, or the condition written out. -/
def Test.isWritable : Test → Bool
  | compare column operator _ => column.isWritable && operator.isWritable
  | oneOf column _ _ => column.isWritable
  | raw sql => sql.isWritable

namespace Expression

/-- The placeholders of the next values after the counter stood at `c`. -/
def placeholders (d : Dialect) (c n : Nat) : List String := (Binder.issued c n).map d.placeholder

theorem placeholders_succ (d : Dialect) (c n : Nat) :
    placeholders d c (n + 1) =
      d.placeholder (Binder.nameOf (c + 1)) :: placeholders d (c + 1) n := by
  simp [placeholders, Binder.issued_succ]

/-- A placeholder is that of the next name. -/
theorem run_placeholder (d : Dialect) (v : Value) (b : Binder) :
    (placeholder d v).run b =
      (.ok (d.placeholder (Binder.nameOf (b.counter + 1))), (b.bind v).2) := rfl

/-- Placeholders in a row are those of the next names, in order. -/
theorem run_forAll_placeholder (d : Dialect) (vs : List Value) (b : Binder) :
    (Attempt.forAll vs (placeholder d)).run b =
      (.ok (placeholders d b.counter vs.length), b.bindAll vs) := by
  induction vs generalizing b with
  | nil => rfl
  | cons v vs ih =>
    rw [Attempt.forAll, Attempt.run_bind, run_placeholder]
    dsimp only
    rw [Attempt.run_bind, ih]
    simp [placeholders_succ]

/-- The text of a test that can be written, when the counter stands at `c`. -/
def written (d : Dialect) (c : Nat) : Test → Value
  | .compare column operator _ =>
    .text (column.plain ++ " " ++ operator.plain ++ " " ++ d.placeholder (Binder.nameOf (c + 1)))
  | .oneOf column values negated =>
    .text (column.plain ++ " " ++ (if negated.truthy then "NOT IN" else "IN") ++ " (" ++
      String.intercalate "," (placeholders d c values.length) ++ ")")
  | .raw sql => sql

/-- The text of a test that can be written can be written. -/
theorem isWritable_written {t : Test} (h : t.isWritable = true) (d : Dialect) (c : Nat) :
    (written d c t).isWritable = true := by
  cases t with
  | compare column operator value => rfl
  | oneOf column values negated => rfl
  | raw sql => exact h

/-- A test that can be written renders, and binds its values. -/
theorem run_body {t : Test} (h : t.isWritable = true) (d : Dialect) (b : Binder) :
    (body d t).run b = (.ok (written d b.counter t), b.bindAll t.values) := by
  cases t with
  | compare column operator value =>
    obtain ⟨hcolumn, hoperator⟩ := Bool.and_eq_true_iff.mp h
    rw [body, Value.write_of_isWritable hcolumn, Value.write_of_isWritable hoperator]
    rfl
  | oneOf column values negated =>
    rw [body, Attempt.run_bind, run_forAll_placeholder, Value.write_of_isWritable h]
    rfl
  | raw sql => rfl

/-- Whatever a test comes to is its text, and its values are bound. -/
theorem run_body_eq_ok {d : Dialect} {t : Test} {b b' : Binder} {v : Value}
    (hrun : (body d t).run b = (.ok v, b')) :
    v = written d b.counter t ∧ b' = b.bindAll t.values := by
  cases t with
  | compare column operator value =>
    obtain ⟨_, hcolumn, hrun⟩ := Attempt.run_ofExcept_bind_eq_ok hrun
    obtain ⟨_, hoperator, hrun⟩ := Attempt.run_ofExcept_bind_eq_ok hrun
    obtain ⟨_, rfl⟩ := Value.write_eq_ok.mp hcolumn
    obtain ⟨_, rfl⟩ := Value.write_eq_ok.mp hoperator
    cases hrun
    exact ⟨rfl, rfl⟩
  | oneOf column values negated =>
    rw [body, Attempt.run_bind, run_forAll_placeholder] at hrun
    obtain ⟨_, hcolumn, hrun⟩ := Attempt.run_ofExcept_bind_eq_ok hrun
    obtain ⟨_, rfl⟩ := Value.write_eq_ok.mp hcolumn
    cases hrun
    exact ⟨rfl, rfl⟩
  | raw sql =>
    cases hrun
    exact ⟨rfl, rfl⟩

/-- A test that comes to something that can be written can be written. -/
theorem isWritable_of_run_body {d : Dialect} {t : Test} {b : Binder} {v : Value}
    (h : ((body d t).run b).1 = .ok v) (hv : v.isWritable = true) : t.isWritable = true := by
  rcases hrun : (body d t).run b with ⟨outcome, b'⟩
  rw [hrun] at h
  obtain rfl : outcome = .ok v := h
  cases t with
  | compare column operator value =>
    obtain ⟨_, hcolumn, hrun⟩ := Attempt.run_ofExcept_bind_eq_ok hrun
    obtain ⟨_, hoperator, _⟩ := Attempt.run_ofExcept_bind_eq_ok hrun
    exact Bool.and_eq_true_iff.mpr
      ⟨(Value.write_eq_ok.mp hcolumn).1, (Value.write_eq_ok.mp hoperator).1⟩
  | oneOf column values negated =>
    rw [body, Attempt.run_bind, run_forAll_placeholder] at hrun
    obtain ⟨_, hcolumn, _⟩ := Attempt.run_ofExcept_bind_eq_ok hrun
    exact (Value.write_eq_ok.mp hcolumn).1
  | raw sql =>
    cases hrun
    exact hv

/-- A test fails only if it cannot be written. -/
theorem failsOnly_body (d : Dialect) (t : Test) :
    Attempt.FailsOnly (fun failure => failure = .malformed ∧ t.isWritable = false) (body d t) := by
  cases t with
  | compare column operator value =>
    refine .bind (.ofExcept fun _ h => ?_) fun _ => .bind (.ofExcept fun _ h => ?_) fun _ => ?_
    · obtain ⟨rfl, hcolumn⟩ := Value.write_eq_error h
      exact ⟨rfl, Bool.and_eq_false_iff.mpr (.inl hcolumn)⟩
    · obtain ⟨rfl, hoperator⟩ := Value.write_eq_error h
      exact ⟨rfl, Bool.and_eq_false_iff.mpr (.inr hoperator)⟩
    · intro b failure h
      cases h
  | oneOf column values negated =>
    refine .bind (fun b failure h => ?_) fun _ =>
      .bind (.ofExcept fun _ h => Value.write_eq_error h) fun _ => .pure _
    rw [run_forAll_placeholder] at h
    cases h
  | raw sql => exact .pure sql

/-- A comparison that cannot be written is malformed. -/
theorem run_body_of_unwritable {t : Test} (h : t.isWritable = false) (hraw : ∀ sql, t ≠ .raw sql)
    (d : Dialect) (b : Binder) : ((body d t).run b).1 = .error .malformed := by
  cases hbody : ((body d t).run b).1 with
  | error failure =>
    obtain ⟨rfl, _⟩ := failsOnly_body d t b failure hbody
    rfl
  | ok v =>
    have hv : v.isWritable = true := by
      obtain ⟨rfl, _⟩ := run_body_eq_ok (Prod.ext hbody rfl)
      cases t with
      | raw sql => exact absurd rfl (hraw sql)
      | _ => rfl
    rw [isWritable_of_run_body hbody hv] at h
    cases h

/-- A test that is added is written behind its connector, or at once if it is a first one. -/
theorem addTest_eq_ok {connector : Connector} {body : Value} {p q : Progress}
    (h : addTest connector body p = .ok q) :
    q = { p with
      text := append p.text ((if p.first then "" else connector.text ++ " ") ++ body.plain)
      first := false } := by
  unfold addTest at h
  split at h
  · rename_i hfirst
    split at h
    · cases h
      rw [if_pos hfirst, String.empty_append]
      rfl
    · cases h
  · rename_i hfirst
    cases hwrite : body.write with
    | error failure =>
      rw [hwrite] at h
      cases h
    | ok s =>
      obtain ⟨_, rfl⟩ := Value.write_eq_ok.mp hwrite
      rw [hwrite] at h
      cases h
      rw [if_neg hfirst]

/-- One step binds the values of its token if it goes on. -/
theorem binds_step (d : Dialect) (clause : String) (p : Progress) (token : Token) :
    (step d clause p token).Binds token.values := by
  cases token with
  | test c t =>
    intro b q b' hrun
    obtain ⟨v, mid, hbody, hrun⟩ := Attempt.run_bind_eq_ok hrun
    obtain ⟨_, rfl⟩ := run_body_eq_ok hbody
    exact Attempt.Binds.ofExcept _ _ _ _ hrun
  | opening c => exact Attempt.Binds.pure _
  | closing => exact Attempt.Binds.ofExcept _
  | foreign s => exact Attempt.Binds.fail _ _

/-- The pass binds the values of all its tokens, in order. -/
theorem binds_steps (d : Dialect) (clause : String) (p : Progress) (tokens : List Token) :
    (steps d clause p tokens).Binds (tokens.flatMap Token.values) := by
  induction tokens generalizing p with
  | nil => exact Attempt.Binds.pure p
  | cons token rest ih =>
    rw [List.flatMap_cons]
    exact (binds_step d clause p token).bind fun q => ih q

/-- An expression binds the values of its tests, in order. -/
theorem binds_render (d : Dialect) (clause : String) (tokens : List Token) :
    (render d clause tokens).Binds (tokens.flatMap Token.values) := by
  refine (binds_steps d clause .start tokens).bind_nil fun p => ?_
  split
  · exact Attempt.Binds.pure p.text
  · exact Attempt.Binds.fail _ _

/-- A clause binds what its expression binds. -/
theorem binds_renderClause (d : Dialect) (keyword : String) (tokens : List Token) (guarded : Bool) :
    (renderClause d keyword tokens guarded).Binds (tokens.flatMap Token.values) := by
  refine (binds_render d keyword tokens).bind_nil fun expression => ?_
  split
  · exact Attempt.Binds.pure _
  · split <;> exact Attempt.Binds.pure _

/-- A blank is left out only at the start and after an opening parenthesis. -/
theorem joinsTightly_eq_false_iff {s : String} :
    joinsTightly s = false ↔ s ≠ "" ∧ s.toList.getLast? ≠ some '(' := by
  simp [joinsTightly]

/-- Whether a blank is left out depends on the part written last. -/
theorem joinsTightly_append (s : String) {t : String} (h : t ≠ "") :
    joinsTightly (s ++ t) = joinsTightly t := by
  have hl : t.toList ≠ [] := by simpa using h
  obtain ⟨front, c, hc⟩ := List.eq_nil_or_concat t.toList |>.resolve_left hl
  have ht : (t == "") = false := by simpa using h
  have hst : (s ++ t == "") = false := by simp [h]
  simp [joinsTightly, ht, hst, hc]

end Expression

end BoundSql
