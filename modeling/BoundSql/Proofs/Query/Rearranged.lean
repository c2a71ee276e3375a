import BoundSql.Proofs.Query.Families

/-!
# Calls in another order

In a sequence of calls, the part of each family is what the calls of that family make of it on their
own. So calls of different families can change places: where a sequence answers, every sequence with
the same calls of each family in the same order answers as well, and leaves the same query.
-/

namespace BoundSql.Query

open Attempt

/-- Calls one after another, each with the family of the part that it works on. -/
def inOrder : List (Clause.Family × Attempt Query Unit) → Attempt Query Unit
  | [] => pure ()
  | call :: rest => do
    call.2
    inOrder rest

/-- The calls of one family, in their order. -/
def ofFamily (family : Clause.Family) (calls : List (Clause.Family × Attempt Query Unit)) :
    List (Clause.Family × Attempt Query Unit) :=
  calls.filter fun call => call.1 = family

variable {calls calls' : List (Clause.Family × Attempt Query Unit)} {family : Clause.Family}
  {q q' : Query}

/-- Calls of one family in a row read and write that family. -/
theorem local_ofFamily (h : ∀ call ∈ calls, Local call.1 call.2) (family : Clause.Family) :
    Local family (inOrder (ofFamily family calls)) := by
  induction calls with
  | nil => exact .pure ()
  | cons call rest ih =>
    have hrest := ih fun call hm => h call (.tail _ hm)
    have hcall := h call List.mem_cons_self
    unfold ofFamily at hrest ⊢
    by_cases hfamily : call.1 = family
    · rw [List.filter_cons_of_pos (by simpa using hfamily)]
      rw [hfamily] at hcall
      exact hcall.bind fun _ => hrest
    · rwa [List.filter_cons_of_neg (by simpa using hfamily)]

/-- The part of a family is what the calls of the family make of it on their own. -/
theorem run_ofFamily (hlocal : ∀ call ∈ calls, Local call.1 call.2)
    (h : (inOrder calls).run q = (.ok (), q')) (family : Clause.Family) :
    (inOrder (ofFamily family calls)).run q = (.ok (), graft family q' q) := by
  induction calls generalizing q with
  | nil =>
    cases h
    exact congrArg (Prod.mk _) (graft_self family _).symm
  | cons call rest ih =>
    have hcall := hlocal call List.mem_cons_self
    have hrest : ∀ call ∈ rest, Local call.1 call.2 := fun call hm => hlocal call (.tail _ hm)
    obtain ⟨_, mid, hmid, h⟩ := run_bind_eq_ok h
    have hpart : OnlyIn call.1 q mid := by
      have honly := hcall.onlyIn q
      rwa [hmid] at honly
    have hih := ih hrest h
    by_cases hfamily : call.1 = family
    · have hfilter : ofFamily family (call :: rest) = call :: ofFamily family rest :=
        List.filter_cons_of_pos (by simpa using hfamily)
      have hsame : graft family q' mid = graft family q' q := by
        rw [hpart, hfamily, graft_graft]
      rw [hfilter, inOrder, run_bind, hmid, ← hsame]
      exact hih
    · have hfilter : ofFamily family (call :: rest) = ofFamily family rest :=
        List.filter_cons_of_neg (by simpa using hfamily)
      -- the calls of the family do not see that the first call is left out
      have hunseen : graft family mid q = q := hpart.graft_of_ne (Ne.symm hfamily)
      have happly := local_ofFamily hrest family mid q
      rw [hunseen, hih, graft_graft_left] at happly
      rw [hfilter]
      exact happly

/-- Calls answer where the calls of each family do on their own. -/
theorem answers_of_families {q : Query} (hlocal : ∀ call ∈ calls, Local call.1 call.2)
    (h : ∀ family, ((inOrder (ofFamily family calls)).run q).1 = .ok ()) :
    ∃ q', (inOrder calls).run q = (.ok (), q') := by
  induction calls generalizing q with
  | nil => exact ⟨q, rfl⟩
  | cons call rest ih =>
    have hcall := hlocal call List.mem_cons_self
    have hrest : ∀ call ∈ rest, Local call.1 call.2 := fun call hm => hlocal call (.tail _ hm)
    have hfilter : ofFamily call.1 (call :: rest) = call :: ofFamily call.1 rest :=
      List.filter_cons_of_pos (by simp)
    have hfirst := h call.1
    rw [hfilter, inOrder, run_bind] at hfirst
    rcases hmid : call.2.run q with ⟨failure | _, mid⟩
    · rw [hmid] at hfirst
      cases hfirst
    · rw [hmid] at hfirst
      have hpart : OnlyIn call.1 q mid := by
        have honly := hcall.onlyIn q
        rwa [hmid] at honly
      have hmids : ∀ family, ((inOrder (ofFamily family rest)).run mid).1 = .ok () := by
        intro family
        by_cases hfamily : call.1 = family
        · rw [← hfamily]
          exact hfirst
        · have hskip : ofFamily family (call :: rest) = ofFamily family rest :=
            List.filter_cons_of_neg (by simpa using hfamily)
          have hunseen : graft family q mid = mid :=
            graft_eq_symm (hpart.graft_of_ne (Ne.symm hfamily))
          have happly := local_ofFamily hrest family q mid
          rw [hunseen] at happly
          rw [happly, ← hskip]
          exact h family
      obtain ⟨q', hq'⟩ := ih hrest hmids
      refine ⟨q', ?_⟩
      rw [inOrder, run_bind, hmid]
      exact hq'

/-- Where calls answer, the same calls with those of each family in the same order answer as well,
and leave the same query. -/
theorem run_rearranged (hlocal : ∀ call ∈ calls, Local call.1 call.2)
    (hlocal' : ∀ call ∈ calls', Local call.1 call.2)
    (horder : ∀ family, ofFamily family calls' = ofFamily family calls)
    (h : (inOrder calls).run q = (.ok (), q')) : (inOrder calls').run q = (.ok (), q') := by
  have hparts := run_ofFamily hlocal h
  obtain ⟨q'', h''⟩ : ∃ q'', (inOrder calls').run q = (.ok (), q'') := by
    refine answers_of_families hlocal' fun family => ?_
    rw [horder, hparts family]
  have hsame : q'' = q' := by
    refine eq_of_graft (r := q) fun family => ?_
    have hpart := run_ofFamily hlocal' h'' family
    rw [horder, hparts family] at hpart
    exact (congrArg Prod.snd hpart).symm
  rw [h'', hsame]

end BoundSql.Query
