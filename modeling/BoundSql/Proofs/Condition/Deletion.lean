import BoundSql.Proofs.Condition.Bracketing
import BoundSql.Proofs.Condition.Joined
import BoundSql.Proofs.Condition.Refusal
import BoundSql.Proofs.Condition.Void
import Mathlib.Data.List.Induction

/-!
# Expressions without their conditions that have no text

The pass over a row is followed beside the pass over the row without the conditions that have no
text. The invariant `Tracks` ties how the two stand to the members so far: nothing is written in
either, the same is written in both, or the row is not tidy and more is written of it. What is more
are connectors that join nothing, so a list renders as without such conditions exactly if it is
tidy. The values bound are the same in any case.
-/

namespace BoundSql

namespace Expression

open Attempt Node Token

variable {d : Dialect} {clause : String} {b : Binder}

/-- How the pass over a row and the pass over it without the conditions that have no text stand to
one another, by the members so far. -/
inductive Tracks (row : List Node) : Progress → Progress → Prop
  /-- Nothing is written in either. -/
  | nothing (hquiet : quiet row) (htidy : tidyAll row) : Tracks row ⟨"", !row.any isVoid, []⟩ .start
  /-- The same is written in both. -/
  | same {text : String} (hvoid : row.any isVoid = false) (hmute : muteAll row = false)
    (htidy : tidyAll row) (htext : text ≠ "") : Tracks row ⟨text, false, []⟩ ⟨text, false, []⟩
  /-- The row is not tidy, and more is written of it. -/
  | longer {p q : Progress} (hquiet : quiet row = false) (htidy : ¬Tidy row)
    (hfirst : p.first = false) (hgroups : p.groups = []) (hgroups' : q.groups = [])
    (hlength : q.text.length < p.text.length)
    (htight : joinsTightly p.text → joinsTightly q.text) : Tracks row p q

namespace Tracks

variable {front : List Node} {node : Node} {p q : Progress}

/-- The passes stand outside of all groups. -/
theorem groups (h : Tracks front p q) : p.groups = [] ∧ q.groups = [] := by
  cases h with
  | nothing => exact ⟨rfl, rfl⟩
  | same => exact ⟨rfl, rfl⟩
  | longer => exact ⟨‹_›, ‹_›⟩

/-- The pass over the row itself is never behind the other one. -/
theorem ahead (h : Tracks front p q) :
    q.text.length ≤ p.text.length ∧ (p.first → q.first) ∧
      (joinsTightly p.text → joinsTightly q.text) := by
  cases h with
  | nothing => exact ⟨Nat.le_refl _, fun _ => rfl, id⟩
  | same => exact ⟨Nat.le_refl _, id, id⟩
  | longer _ _ hfirst _ _ hlength htight =>
    exact ⟨Nat.le_of_lt hlength, fun h => absurd (hfirst ▸ h) Bool.false_ne_true, htight⟩

/-- One more part keeps the distance, up to the length of the parts. -/
theorem length_join_le (h : Tracks front p q) (c : Connector) (part part' : String) :
    (q.join c part').text.length + p.text.length + part.length ≤
      (p.join c part).text.length + q.text.length + part'.length := by
  obtain ⟨-, hfirst, htight⟩ := h.ahead
  rw [length_join, length_join]
  grind

/-- A condition without text takes the place of a first member or brings a connector. -/
theorem concat_void (h : Tracks front p q) (hnode : node.isVoid) (c : Connector) :
    Tracks (front ++ [node]) (p.join c "") q := by
  have hmute : node.mute := mute_of_isVoid hnode
  have htidy : node.tidy := tidy_of_isVoid hnode
  have hany : (front ++ [node]).any isVoid = true := by rw [any_isVoid_concat, hnode, Bool.or_true]
  cases hfirst : p.first with
  | true =>
    cases h with
    | nothing hquiet hfront =>
      have hnone : front.any isVoid = false := by simpa using hfirst
      have hquiet' : quiet (front ++ [node]) := quiet_concat.mpr ⟨hquiet, hmute, fun _ => hnone⟩
      have htidy' : tidyAll (front ++ [node]) := by rw [tidyAll_concat, hfront, htidy]; rfl
      have hjoin : Progress.join c "" ⟨"", !front.any isVoid, []⟩ =
          ⟨"", !(front ++ [node]).any isVoid, []⟩ := by
        rw [hnone, hany]
        rfl
      rw [hjoin]
      exact .nothing hquiet' htidy'
    | same => cases hfirst
    | longer _ _ hother =>
      rw [hother] at hfirst
      cases hfirst
  | false =>
    have hquiet : quiet (front ++ [node]) = false := by
      rw [Bool.eq_false_iff]
      intro hall
      obtain ⟨hfront, -, hnone⟩ := quiet_concat.mp hall
      cases h with
      | nothing =>
        rw [hnone hnode] at hfirst
        cases hfirst
      | same _ hloud =>
        rw [quiet, hloud] at hfront
        cases hfront
      | longer hloud =>
        rw [hloud] at hfront
        cases hfront
    have htight : joinsTightly (p.join c "").text = false := by
      obtain ⟨blank, htext⟩ := append_eq p.text (c.text ++ " " ++ "")
      rw [Progress.join, hfirst]
      change joinsTightly (append p.text (c.text ++ " " ++ "")) = false
      rw [htext, String.append_empty, ← String.append_assoc, ← String.append_assoc,
        joinsTightly_append _ (by decide)]
      rfl
    refine .longer hquiet (fun hall => ?_) rfl h.groups.1 h.groups.2 ?_ ?_
    · rw [hall.1 hany] at hquiet
      cases hquiet
    · have hahead := h.ahead.1
      rw [length_join, hfirst]
      simp
      omega
    · rw [htight]
      intro h
      cases h

/-- A group of which nothing is written changes nothing. -/
theorem concat_mute (h : Tracks front p q) (hmute : node.mute) (hnode : node.isVoid = false)
    (htidy : node.tidy) : Tracks (front ++ [node]) p q := by
  have hany : (front ++ [node]).any isVoid = front.any isVoid := by
    rw [any_isVoid_concat, hnode, Bool.or_false]
  have hall : tidyAll (front ++ [node]) = tidyAll front := by
    rw [tidyAll_concat, htidy, Bool.and_true]
  cases h with
  | nothing hquiet hfront =>
    have hquiet' : quiet (front ++ [node]) :=
      quiet_concat.mpr ⟨hquiet, hmute, fun hvoid => absurd (hnode ▸ hvoid) Bool.false_ne_true⟩
    rw [← hany]
    exact .nothing hquiet' (hall ▸ hfront)
  | same hvoid hloud hfront htext =>
    have hloud' : muteAll (front ++ [node]) = false := by rw [muteAll_concat, hloud, Bool.false_and]
    exact .same (hany ▸ hvoid) hloud' (hall ▸ hfront) htext
  | longer hloud hmixed hfirst hgroups hgroups' hlength htight =>
    have hloud' : quiet (front ++ [node]) = false := by
      rw [Bool.eq_false_iff]
      exact fun hquiet => absurd (hloud ▸ (quiet_concat.mp hquiet).1) Bool.false_ne_true
    exact .longer hloud' (fun h => hmixed h.of_concat) hfirst hgroups hgroups' hlength htight

/-- A node that is written in the same way joins the same part. -/
theorem concat_text (h : Tracks front p q) (hloud : node.mute = false) (htidy : node.tidy)
    {part : String} (hpart : part ≠ "") (c : Connector) :
    Tracks (front ++ [node]) (p.join c part) (q.join c part) := by
  have hnode : node.isVoid = false := by
    rw [Bool.eq_false_iff]
    exact fun hvoid => absurd (hloud ▸ mute_of_isVoid hvoid) Bool.false_ne_true
  have hany : (front ++ [node]).any isVoid = front.any isVoid := by
    rw [any_isVoid_concat, hnode, Bool.or_false]
  have hall : tidyAll (front ++ [node]) = tidyAll front := by
    rw [tidyAll_concat, htidy, Bool.and_true]
  have hloud' : muteAll (front ++ [node]) = false := by rw [muteAll_concat, hloud, Bool.and_false]
  have hquiet : quiet (front ++ [node]) = false := by rw [quiet, hloud', Bool.false_and]
  have hne : ∀ p : Progress, (p.join c part).text ≠ "" := by
    intro p hempty
    have hlength := length_join c part p
    rw [hempty] at hlength
    have hpositive : part.length ≠ 0 := by simpa using hpart
    have hzero : "".length = 0 := rfl
    omega
  have htight : joinsTightly (p.join c part).text → joinsTightly (q.join c part).text := by
    rw [joinsTightly_join c hpart, joinsTightly_join c hpart]
    exact id
  have hlonger := h.length_join_le c part part
  cases h with
  | nothing hfront htidy' =>
    cases hvoid : front.any isVoid with
    | false => exact .same (hany.trans hvoid) hloud' (hall.trans htidy') (hne .start)
    | true =>
      refine .longer hquiet (fun h => ?_) rfl rfl rfl ?_ (hvoid ▸ htight)
      · rw [h.1 (hany.trans hvoid)] at hquiet
        cases hquiet
      · have hempty : joinsTightly "" = true := rfl
        rw [length_join, length_join]
        simp [Progress.start, hempty]
  | same hvoid _ hfront htext =>
    exact .same (hany.trans hvoid) hloud' (hall.trans hfront) (hne ⟨_, _, _⟩)
  | longer _ hmixed _ hgroups hgroups' hlength _ =>
    refine .longer hquiet (fun h => hmixed h.of_concat) rfl hgroups hgroups' ?_ htight
    omega

/-- A group is joined by what its members write, in both. -/
theorem concat_group (h : Tracks front p q) {members : List Node} {r r' : Progress}
    (hmembers : Tracks members r r') (c : Connector) :
    Tracks (front ++ [.group c members])
      (if r.text = "" then p else p.join c ("(" ++ r.text ++ ")"))
      (if r'.text = "" then q else q.join c ("(" ++ r'.text ++ ")")) := by
  cases hmembers with
  | nothing hquiet htidy =>
    have htidy' : tidy (.group c members) := (tidy_group c members).mpr ⟨fun _ => hquiet, htidy⟩
    exact h.concat_mute hquiet rfl htidy'
  | same hvoid hloud htidy htext =>
    have hgroup : mute (.group c members) = false := by
      rw [mute_group, quiet, hloud, Bool.false_and]
    have htidy' : tidy (.group c members) :=
      (tidy_group c members).mpr ⟨fun h => absurd (hvoid ▸ h) Bool.false_ne_true, htidy⟩
    rw [if_neg htext, if_neg htext]
    exact h.concat_text hgroup htidy' (by simp) c
  | longer hquiet hmixed _ _ _ hlength _ =>
    have hne : r.text ≠ "" := by
      intro hempty
      rw [hempty] at hlength
      cases hlength
    have hmixed' : ¬Tidy (front ++ [.group c members]) := by
      intro hall
      have htidy := hall.2
      rw [tidyAll_concat, Bool.and_eq_true] at htidy
      exact hmixed ((tidy_group c members).mp htidy.2)
    have hahead := h.ahead
    have hloud : quiet (front ++ [.group c members]) = false := quiet_concat_of_loud hquiet
    rw [if_neg hne]
    have hlonger : (if r'.text = "" then q else q.join c ("(" ++ r'.text ++ ")")).text.length <
        (p.join c ("(" ++ r.text ++ ")")).text.length := by
      split
      · rw [length_join]
        simp only [String.length_append]
        omega
      · have hjoin := h.length_join_le c ("(" ++ r.text ++ ")") ("(" ++ r'.text ++ ")")
        simp only [String.length_append] at hjoin
        omega
    have hgroups : (if r'.text = "" then q else q.join c ("(" ++ r'.text ++ ")")).groups = [] := by
      split
      · exact h.groups.2
      · exact h.groups.2
    refine .longer hloud hmixed' rfl h.groups.1 hgroups hlonger ?_
    rw [joinsTightly_join c (by simp), joinsTightly_append _ (by decide)]
    intro htight
    exact absurd htight (by decide)

end Tracks

/-- A test of a writable list comes out as a text, which is empty only if the test has no text. -/
theorem exists_written {c : Connector} {t : Test} (h : Textual (.test c t)) (n : Nat) :
    ∃ s, written d n t = .text s ∧ (s = "" ↔ t.isVoid) := by
  cases t with
  | compare column operator value => exact ⟨_, rfl, by simp [Test.isVoid]⟩
  | oneOf column values negated => exact ⟨_, rfl, by simp [Test.isVoid]⟩
  | raw sql =>
    obtain ⟨s, rfl⟩ := h.raw c sql rfl
    exact ⟨s, rfl, by simp [Test.isVoid]⟩

/-- The two passes over a node track one more member. -/
theorem passes_node {front : List Node} {node : Node} {p q : Progress} (h : Tracks front p q)
    (htext : ∀ token ∈ node.tokens, Textual token)
    (hgroup : ∀ c members, node = .group c members → ∃ r r',
      Passes d clause b .start (tokensAll members) r ∧
      Passes d clause b .start (withoutVoids (tokensAll members)) r' ∧ Tracks members r r') :
    ∃ p' q', Passes d clause b p node.tokens p' ∧
      Passes d clause b q (withoutVoids node.tokens) q' ∧ Tracks (front ++ [node]) p' q' := by
  cases node with
  | test c t =>
    have htest : Textual (.test c t) := htext _ List.mem_cons_self
    obtain ⟨s, hwritten, hs⟩ := exists_written htest b.counter
    have hpass : ∀ p : Progress, Passes d clause b p [.test c t] (p.join c s) :=
      passes_test (htest.isWritable c t rfl) hwritten c
    have hown : Passes d clause b p [.test c t] (p.join c s) := hpass p
    by_cases hvoid : t.isVoid = true
    · have hnode : (Node.test c t).isVoid = true := hvoid
      have hnone : withoutVoids [.test c t] = [] := by simp [withoutVoids, Token.isVoid, hvoid]
      rw [hs.mpr hvoid] at hown
      rw [tokens, hnone]
      exact ⟨_, q, hown, .nil q, h.concat_void hnode c⟩
    · have hloud : (Node.test c t).mute = false := Bool.eq_false_iff.mpr hvoid
      have hkept : withoutVoids [.test c t] = [.test c t] := by
        simp [withoutVoids, Token.isVoid, hvoid]
      have hother : Passes d clause b q [.test c t] (q.join c s) := hpass q
      rw [tokens, hkept]
      exact ⟨_, _, hown, hother, h.concat_text hloud rfl (fun he => hvoid (hs.mp he)) c⟩
  | group c members =>
    obtain ⟨r, r', hr, hr', hmembers⟩ := hgroup c members rfl
    obtain ⟨hopen, hopen'⟩ := hmembers.groups
    rw [tokens, withoutVoids_group]
    exact ⟨_, _, passes_group hr hopen c p, passes_group hr' hopen' c q,
      h.concat_group hmembers c⟩

/-- From the start of a row, both passes go through, and what they write tracks its members. -/
theorem passes_row (row : List Node) (htext : ∀ token ∈ tokensAll row, Textual token)
    (b : Binder) :
    ∃ p q, Passes d clause b .start (tokensAll row) p ∧
      Passes d clause b .start (withoutVoids (tokensAll row)) q ∧ Tracks row p q := by
  induction row using row_induction generalizing b with
  | h row ih =>
    induction row using List.reverseRecOn with
    | nil => exact ⟨.start, .start, .nil _, .nil _, .nothing rfl rfl⟩
    | append_singleton front node ihfront =>
      have hsplit : tokensAll (front ++ [node]) = tokensAll front ++ node.tokens := by
        rw [tokensAll_append, tokensAll, tokensAll, List.append_nil]
      rw [hsplit] at htext ⊢
      obtain ⟨p, q, hp, hq, htracks⟩ := ihfront
        (fun c members hm => ih c members (List.mem_append_left _ hm))
        (fun token hm => htext token (List.mem_append_left _ hm))
      obtain ⟨p', q', hp', hq', htracks'⟩ := passes_node htracks
        (fun token hm => htext token (List.mem_append_right _ hm)) fun c members hnode => by
          subst hnode
          refine ih c members (List.mem_append_right _ List.mem_cons_self) (fun token hm => ?_) _
          refine htext token (List.mem_append_right _ ?_)
          rw [tokens]
          exact .tail _ (List.mem_append_left _ hm)
      rw [withoutVoids_append]
      refine ⟨p', q', hp.append hp', hq.append ?_, htracks'⟩
      rwa [values_withoutVoids]

/-- What two passes that end as their row is tracked have written. -/
theorem Tracks.texts {row : List Node} {p q : Progress} (h : Tracks row p q) :
    (p.text = "" ↔ quiet row) ∧ (p.text = q.text ↔ Tidy row) ∧
      (¬Tidy row → q.text.length < p.text.length) := by
  cases h with
  | nothing hquiet htidy =>
    have hall : Tidy row := ⟨fun _ => hquiet, htidy⟩
    exact ⟨iff_of_true rfl hquiet, iff_of_true rfl hall, fun h => absurd hall h⟩
  | same hvoid hloud htidy htext =>
    have hall : Tidy row := ⟨fun h => absurd (hvoid ▸ h) Bool.false_ne_true, htidy⟩
    have hquiet : ¬quiet row := by rw [quiet, hloud]; exact Bool.false_ne_true
    exact ⟨iff_of_false htext hquiet, iff_of_true rfl hall, fun h => absurd hall h⟩
  | longer hloud hmixed _ _ _ hlength _ =>
    have hquiet : ¬quiet row := by rw [hloud]; exact Bool.false_ne_true
    have hne : p.text ≠ "" := by
      intro hempty
      rw [hempty] at hlength
      cases hlength
    have hdiffer : p.text ≠ q.text := by
      intro hsame
      rw [hsame] at hlength
      exact Nat.lt_irrefl _ hlength
    exact ⟨iff_of_false hne hquiet, iff_of_false hdiffer hmixed, fun _ => hlength⟩

/-- A balanced list renders with and without its conditions that have no text, and binds the same
values. Both expressions are the same exactly if nothing is written of any row, the whole list or a
group in it, that holds such a condition; otherwise more is written. -/
theorem render_withoutVoids (d : Dialect) (clause : String) (b : Binder) {tokens : List Token}
    (h : Balanced tokens 0) (hw : Writable tokens) :
    ∃ s s', (render d clause tokens).run b = (.ok s, b.bindAll (tokens.flatMap Token.values)) ∧
      (render d clause (withoutVoids tokens)).run b =
        (.ok s', b.bindAll (tokens.flatMap Token.values)) ∧
      (∃ nodes, tokensAll nodes = tokens) ∧ ∀ nodes, tokensAll nodes = tokens →
        (s = "" ↔ quiet nodes) ∧ (s = s' ↔ Tidy nodes) ∧ (¬Tidy nodes → s'.length < s.length) := by
  have hruns : ∀ nodes, tokensAll nodes = tokens → ∃ p q,
      (render d clause tokens).run b = (.ok p.text, b.bindAll (tokens.flatMap Token.values)) ∧
      (render d clause (withoutVoids tokens)).run b =
        (.ok q.text, b.bindAll (tokens.flatMap Token.values)) ∧ Tracks nodes p q := by
    rintro nodes rfl
    obtain ⟨p, q, hp, hq, htracks⟩ := passes_row nodes hw.textual b
    have hrun := run_render hq htracks.groups.2
    rw [values_withoutVoids] at hrun
    exact ⟨p, q, run_render hp htracks.groups.1, hrun, htracks⟩
  obtain ⟨nodes, hnodes⟩ := h.exists_nodes hw.known
  obtain ⟨p, q, hp, hq, -⟩ := hruns nodes hnodes
  refine ⟨p.text, q.text, hp, hq, ⟨nodes, hnodes⟩, fun row hrow => ?_⟩
  obtain ⟨p', q', hp', hq', htracks⟩ := hruns row hrow
  have htext : p.text = p'.text := Except.ok.inj (congrArg Prod.fst (hp.symm.trans hp'))
  have htext' : q.text = q'.text := Except.ok.inj (congrArg Prod.fst (hq.symm.trans hq'))
  rw [htext, htext']
  exact htracks.texts

/-- Conditions without text that stand alone in their groups leave no trace, nor does a row of
which nothing else is written: `a = 1 AND (<>) OR (() AND <>)` renders as `a = 1`, where `<>` has no
text. -/
theorem render_withoutVoids_alone :
    let nodes : List Node :=
      [.test .or (.compare (.text "a") (.text "=") (.int 1)),
        .group .and [.test .and (.raw (.text ""))],
        .group .or [.group .and [], .test .and (.raw (.text ""))]]
    Balanced (tokensAll nodes) 0 ∧ Writable (tokensAll nodes) ∧
      ∃ s, (render (.ofTarget .sqlite) "WHERE" (tokensAll nodes)).run .fresh =
          (.ok s, Binder.bindAll .fresh [.int 1]) ∧
        (render (.ofTarget .sqlite) "WHERE" (withoutVoids (tokensAll nodes))).run .fresh =
          (.ok s, Binder.bindAll .fresh [.int 1]) := by
  intro nodes
  have hwritable : Writable (tokensAll nodes) := by
    constructor
    · intro s hm
      simp [nodes, tokensAll, tokens] at hm
    · decide +kernel
  obtain ⟨s, s', hrun, hrun', -, hall⟩ := render_withoutVoids (.ofTarget .sqlite) "WHERE" .fresh
    (balanced_tokensAll nodes) hwritable
  have hsame : s = s' := (hall nodes rfl).2.1.mpr (by decide)
  rw [← hsame] at hrun'
  exact ⟨balanced_tokensAll nodes, hwritable, s, hrun, hrun'⟩

/-- Beside other members a condition without text leaves its connector, or that of the member behind
it: at the start, directly behind the start of a group, and next to another connector. -/
theorem render_withoutVoids_beside :
    let nodes : List Node :=
      [.test .and (.raw (.text "")),
        .group .and [.test .and (.raw (.text "")),
          .test .and (.compare (.text "b") (.text "=") (.int 1))],
        .test .and (.raw (.text "")), .test .and (.compare (.text "c") (.text "=") (.int 2))]
    Balanced (tokensAll nodes) 0 ∧
      ((render (.ofTarget .sqlite) "WHERE" (tokensAll nodes)).run .fresh).1.toOption =
        some "AND (AND b = :p1) AND  AND c = :p2" ∧
      ((render (.ofTarget .sqlite) "WHERE" (withoutVoids (tokensAll nodes))).run
        .fresh).1.toOption = some "(b = :p1) AND c = :p2" := by
  intro nodes
  exact ⟨balanced_tokensAll nodes, by decide +kernel, by decide +kernel⟩

end Expression

end BoundSql
