import BoundSql.Proofs.Condition.Present

/-!
# Members joined to what is written

A test or a group is joined to the text so far, with its connector unless it is a first member. What
a group writes does not depend on where it stands: behind the start of a group a step is made as at
the start of an expression, and a group in which nothing is written leaves no trace.
-/

namespace BoundSql

namespace Expression

open Attempt

variable {d : Dialect} {clause : String} {b : Binder}

/-- The progress behind one more part, which has its connector in front unless it is a first one. -/
def Progress.join (c : Connector) (part : String) (p : Progress) : Progress :=
  ⟨append p.text (if p.first then part else c.text ++ " " ++ part), false, p.groups⟩

/-- The pass over some members leads from one progress to another and binds their values. -/
def Passes (d : Dialect) (clause : String) (b : Binder) (p : Progress) (tokens : List Token)
    (q : Progress) : Prop :=
  (steps d clause p tokens).run b = (.ok q, b.bindAll (tokens.flatMap Token.values))

theorem Passes.nil (p : Progress) : Passes d clause b p [] p := rfl

theorem Passes.append {front rest : List Token} {p q r : Progress}
    (h : Passes d clause b p front q)
    (h' : Passes d clause (b.bindAll (front.flatMap Token.values)) q rest r) :
    Passes d clause b p (front ++ rest) r := by
  induction front generalizing p b with
  | nil =>
    cases h
    exact h'
  | cons token front ih =>
    obtain ⟨mid, b₁, hstep, hfront⟩ := run_bind_eq_ok h
    have hb : b₁ = b.bindAll token.values := binds_step d clause p token b mid b₁ hstep
    rw [List.flatMap_cons, Binder.bindAll_append, ← hb] at hfront h'
    have hrest : Passes d clause b₁ mid (front ++ rest) r := ih hfront h'
    rw [Passes, List.cons_append, steps, run_bind, hstep, List.flatMap_cons, Binder.bindAll_append,
      ← hb]
    exact hrest

/-- A test whose text is a text is joined to what is written. -/
theorem passes_test {t : Test} {s : String} (ht : t.isWritable = true)
    (h : written d b.counter t = .text s) (c : Connector) (p : Progress) :
    Passes d clause b p [.test c t] (p.join c s) := by
  have hadd : addTest c (.text s) p = .ok (p.join c s) := by
    unfold addTest Progress.join
    split <;> rfl
  rw [Passes, steps, run_bind, step, run_bind, run_body ht, h]
  dsimp only
  rw [hadd, List.flatMap_singleton]
  rfl

/-- A progress that stands inside a text and inside groups that are open around it. -/
def Progress.inside (before : String) (outer : List OpenGroup) (p : Progress) : Progress :=
  ⟨before ++ p.text, p.first,
    p.groups.map (fun g => ⟨before ++ g.before, g.first, before ++ g.opened⟩) ++ outer⟩

section Inside

variable {before : String} {outer : List OpenGroup} {p q : Progress}

/-- Behind a text that wants no blank a part is joined as on its own. -/
theorem append_inside (hbefore : joinsTightly before = true) (text part : String) :
    append (before ++ text) part = before ++ append text part := by
  unfold append
  by_cases htext : text = ""
  · have htight : joinsTightly text = true := by rw [htext]; rfl
    rw [htext] at htight ⊢
    rw [String.append_empty, if_pos hbefore, if_pos htight, String.empty_append]
  · rw [joinsTightly_append before htext]
    split <;> simp only [String.append_assoc]

/-- Behind a text that ends where no blank is needed, a step is made as at the start. -/
theorem step_inside (hbefore : joinsTightly before = true) {token : Token} {b' : Binder}
    (h : (step d clause p token).run b = (.ok q, b')) :
    (step d clause (p.inside before outer) token).run b = (.ok (q.inside before outer), b') := by
  cases token with
  | test c t =>
    obtain ⟨v, mid, hbody, h⟩ := run_bind_eq_ok h
    obtain ⟨hadd, rfl⟩ := run_ofExcept_eq_ok h
    have hinside : addTest c v (p.inside before outer) = .ok (q.inside before outer) := by
      unfold addTest at hadd ⊢
      split at hadd
      · rename_i hfirst
        rw [if_pos (show (p.inside before outer).first = true from hfirst)]
        split at hadd
        · cases hadd
          simp only [Progress.inside, append_inside hbefore]
        · cases hadd
      · rename_i hfirst
        rw [if_neg (show ¬(p.inside before outer).first = true from hfirst)]
        cases hwrite : v.write with
        | error failure =>
          rw [hwrite] at hadd
          cases hadd
        | ok part =>
          rw [hwrite] at hadd
          cases hadd
          simp only [Progress.inside, append_inside hbefore]
          rfl
    rw [step, run_bind, hbody]
    dsimp only
    rw [hinside]
    rfl
  | opening c =>
    cases h
    simp only [step, openGroup, Progress.inside, append_inside hbefore]
    rfl
  | closing =>
    obtain ⟨hclose, rfl⟩ := run_ofExcept_eq_ok h
    have hinside : closeGroup clause (p.inside before outer) = .ok (q.inside before outer) := by
      unfold closeGroup at hclose ⊢
      split at hclose
      · cases hclose
      · rename_i g groups hgroups
        simp only [Progress.inside, hgroups, List.map_cons, List.cons_append,
          String.append_right_inj]
        split at hclose
        · rename_i hsame
          cases hclose
          rw [if_pos hsame]
        · rename_i hsame
          cases hclose
          rw [if_neg hsame, String.append_assoc]
    rw [step, hinside]
    rfl
  | foreign s => cases h

/-- A pass does in a group what it does on its own. -/
theorem steps_inside (hbefore : joinsTightly before = true) {tokens : List Token} {b' : Binder}
    (h : (steps d clause p tokens).run b = (.ok q, b')) :
    (steps d clause (p.inside before outer) tokens).run b = (.ok (q.inside before outer), b') := by
  induction tokens generalizing p b with
  | nil =>
    cases h
    rfl
  | cons token rest ih =>
    obtain ⟨mid, b₁, hstep, hrest⟩ := run_bind_eq_ok h
    rw [steps, run_bind, step_inside hbefore hstep]
    exact ih hrest

end Inside

/-- A part is joined by what stands in front of it. -/
theorem append_append (text part more : String) :
    append text (part ++ more) = append text part ++ more := by
  unfold append
  split <;> simp only [String.append_assoc]

/-- No blank is needed behind the start of a group. -/
theorem joinsTightly_openGroup (c : Connector) (p : Progress) :
    joinsTightly (openGroup c p).text = true := by
  have hparen : (if p.first then "(" else c.text ++ " (") =
      (if p.first then "" else c.text ++ " ") ++ "(" := by
    split <;> simp [String.append_assoc]
  obtain ⟨blank, htext⟩ := append_eq p.text ((if p.first then "" else c.text ++ " ") ++ "(")
  rw [openGroup, hparen]
  dsimp only
  rw [htext, ← String.append_assoc, ← String.append_assoc, joinsTightly_append _ (by decide)]
  rfl

/-- A group is joined by its start, what stands in it and its end. -/
theorem Progress.join_group (c : Connector) (s : String) (p : Progress) :
    p.join c ("(" ++ s ++ ")") = ⟨(openGroup c p).text ++ s ++ ")", false, p.groups⟩ := by
  simp only [Progress.join, openGroup, ← append_append]
  split <;> simp only [String.append_assoc]
  rfl

/-- A group is joined to what is written in parentheses, unless nothing is written in it. -/
theorem passes_group {tokens : List Token} {q : Progress}
    (h : Passes d clause b .start tokens q) (hgroups : q.groups = []) (c : Connector)
    (p : Progress) :
    Passes d clause b p (.opening c :: (tokens ++ [.closing]))
      (if q.text = "" then p else p.join c ("(" ++ q.text ++ ")")) := by
  have hopening : Passes d clause b p [.opening c] (openGroup c p) := rfl
  have hmembers : Passes d clause b (openGroup c p) tokens
      ⟨(openGroup c p).text ++ q.text, q.first, (openGroup c p).groups⟩ := by
    have hstart : Progress.start.inside (openGroup c p).text (openGroup c p).groups =
        openGroup c p := by
      rw [Progress.inside, Progress.start, String.append_empty]
      rfl
    have hinside : (steps d clause
        (Progress.start.inside (openGroup c p).text (openGroup c p).groups) tokens).run b =
        (.ok (q.inside (openGroup c p).text (openGroup c p).groups), _) :=
      steps_inside (joinsTightly_openGroup c p) h
    rw [hstart, Progress.inside, hgroups] at hinside
    exact hinside
  have hclosing : closeGroup clause
      ⟨(openGroup c p).text ++ q.text, q.first, (openGroup c p).groups⟩ =
        .ok (if q.text = "" then p else p.join c ("(" ++ q.text ++ ")")) := by
    rw [Progress.join_group]
    by_cases hempty : q.text = ""
    · simp [closeGroup, openGroup, hempty]
    · simp [closeGroup, openGroup, hempty]
  have hclose : ∀ b', Passes d clause b'
      ⟨(openGroup c p).text ++ q.text, q.first, (openGroup c p).groups⟩ [.closing]
      (if q.text = "" then p else p.join c ("(" ++ q.text ++ ")")) := by
    intro b'
    rw [Passes, steps, step, hclosing]
    rfl
  exact hopening.append (hmembers.append (hclose _))

/-- A pass that ends outside of all groups gives its text. -/
theorem run_render {tokens : List Token} {p : Progress} (h : Passes d clause b .start tokens p)
    (hgroups : p.groups = []) :
    (render d clause tokens).run b = (.ok p.text, b.bindAll (tokens.flatMap Token.values)) := by
  rw [render, run_bind, h]
  dsimp only
  rw [hgroups]
  rfl

/-- A part adds its own length, that of its connector and those of the blanks. -/
theorem length_join (c : Connector) (part : String) (p : Progress) :
    (p.join c part).text.length =
      p.text.length + (if joinsTightly p.text then 0 else 1) +
        (if p.first then 0 else c.text.length + 1) + part.length := by
  have hblank : " ".length = 1 := rfl
  unfold Progress.join append
  cases joinsTightly p.text <;> cases p.first <;> simp [String.length_append, hblank] <;> omega

/-- Whether a blank is needed behind a part depends on the part. -/
theorem joinsTightly_join (c : Connector) {part : String} (hpart : part ≠ "") (p : Progress) :
    joinsTightly (p.join c part).text = joinsTightly part := by
  unfold Progress.join
  obtain ⟨blank, htext⟩ := append_eq p.text (if p.first then part else c.text ++ " " ++ part)
  dsimp only
  rw [htext]
  split
  · rw [← String.append_assoc, joinsTightly_append _ hpart]
  · rw [← String.append_assoc, ← String.append_assoc, joinsTightly_append _ hpart]

end Expression

end BoundSql
