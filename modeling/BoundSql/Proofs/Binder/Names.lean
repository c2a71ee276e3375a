import BoundSql.Attempt
import BoundSql.Binder
import Mathlib.Data.List.Nodup

/-!
# Names issued in a row

Decimal numerals tell placeholder names apart, so a binder whose live names were all issued by its
own counter never overwrites one. Binding a list of values then adds exactly the next names, in
order, each with its value. `Attempt.Binds` says which values an attempt has bound once it answers.
-/

namespace BoundSql

namespace Binder

/-- Different numbers give different names. -/
theorem nameOf_injective : Function.Injective nameOf := by
  intro m n h
  have hd : Nat.toDigits 10 m = Nat.toDigits 10 n := by
    simpa [nameOf, Nat.toString_eq_ofList_toDigits] using congrArg String.toList h
  rw [← Nat.ofDigitChars_ten_toDigits (n := m), hd, Nat.ofDigitChars_ten_toDigits]

/-- Bind values one after another. -/
def bindAll (b : Binder) (vs : List Value) : Binder := vs.foldl (fun b v => (b.bind v).2) b

@[simp] theorem bindAll_nil (b : Binder) : b.bindAll [] = b := rfl

@[simp] theorem bindAll_cons (b : Binder) (v : Value) (vs : List Value) :
    b.bindAll (v :: vs) = (b.bind v).2.bindAll vs := rfl

theorem bindAll_append (b : Binder) (vs ws : List Value) :
    b.bindAll (vs ++ ws) = (b.bindAll vs).bindAll ws := List.foldl_append ..

@[simp] theorem counter_bindAll (b : Binder) (vs : List Value) :
    (b.bindAll vs).counter = b.counter + vs.length := by
  induction vs generalizing b with
  | nil => rfl
  | cons v vs ih =>
    rw [bindAll_cons, ih, counter_bind, List.length_cons]
    omega

/-- Every live name was issued by the counter. -/
def Live (b : Binder) : Prop := ∀ entry ∈ b.params, ∃ n ≤ b.counter, entry.1 = nameOf n

/-- After a reset no name is live. -/
theorem live_reset (b : Binder) : b.reset.Live := by
  intro entry he
  simp at he

/-- The next name is new among live names, so it becomes a last binding. -/
theorem Live.params_bind {b : Binder} (h : b.Live) (v : Value) :
    (b.bind v).2.params = b.params ++ [(nameOf (b.counter + 1), v)] := by
  refine Entries.put_of_absent fun entry he => ?_
  obtain ⟨n, hn, hname⟩ := h entry he
  rw [beq_eq_false_iff_ne, hname]
  intro heq
  have := nameOf_injective heq
  omega

/-- Binding keeps all live names issued by the counter. -/
theorem Live.bind {b : Binder} (h : b.Live) (v : Value) : (b.bind v).2.Live := by
  intro entry he
  rw [h.params_bind, List.mem_append, List.mem_singleton] at he
  rcases he with he | rfl
  · obtain ⟨n, hn, hname⟩ := h entry he
    exact ⟨n, by simp only [counter_bind]; omega, hname⟩
  · exact ⟨b.counter + 1, Nat.le_refl _, rfl⟩

/-- The names that `n` calls issue after the counter stood at `c`. -/
def issued (c n : Nat) : List String := (List.range' (c + 1) n).map nameOf

theorem issued_succ (c n : Nat) : issued c (n + 1) = nameOf (c + 1) :: issued (c + 1) n := by
  simp [issued, List.range'_succ]

/-- Calls in a row issue the names of the first ones, and behind them those of the others. -/
theorem issued_append (c m n : Nat) : issued c (m + n) = issued c m ++ issued (c + m) n := by
  rw [issued, issued, issued, ← List.map_append, Nat.add_right_comm, List.range'_append_1]

/-- No name is issued twice. -/
theorem nodup_issued (c n : Nat) : (issued c n).Nodup :=
  List.Nodup.map nameOf_injective List.nodup_range'

/-- Binding a list of values adds one binding for each, under the next names and in their order. -/
theorem Live.params_bindAll {b : Binder} (h : b.Live) (vs : List Value) :
    (b.bindAll vs).params = b.params ++ (issued b.counter vs.length).zip vs := by
  induction vs generalizing b with
  | nil => simp
  | cons v vs ih =>
    rw [bindAll_cons, ih (h.bind v), h.params_bind, counter_bind, List.length_cons, issued_succ]
    simp

/-- After a reset the bindings are exactly those of the values bound since. -/
theorem params_reset_bindAll (b : Binder) (vs : List Value) :
    (b.reset.bindAll vs).params = (issued b.counter vs.length).zip vs := by
  rw [(live_reset b).params_bindAll, params_reset, List.nil_append, counter_reset]

end Binder

namespace Attempt

variable {σ α β : Type}

/-- Whenever the attempt answers, it has bound these values, in this order, and nothing else. -/
def Binds (act : Attempt Binder α) (vs : List Value) : Prop :=
  ∀ b a b', act.run b = (.ok a, b') → b' = b.bindAll vs

theorem Binds.pure (a : α) : Binds (Pure.pure a) [] := by
  intro b a' b' h
  cases h
  rfl

theorem Binds.fail (f : Failure) (vs : List Value) :
    Binds (Attempt.fail f : Attempt Binder α) vs := by
  intro b a b' h
  cases h

theorem Binds.ofExcept (e : Except Failure α) : Binds (Attempt.ofExcept e) [] := by
  cases e with
  | ok a => exact Binds.pure a
  | error f => exact Binds.fail f []

/-- Attempts in a row bind what each of them binds. -/
theorem Binds.bind {act : Attempt Binder α} {next : α → Attempt Binder β} {vs ws : List Value}
    (h : act.Binds vs) (hn : ∀ a, (next a).Binds ws) : (act >>= next).Binds (vs ++ ws) := by
  intro b a b' hr
  rw [run_bind] at hr
  cases hact : act.run b with
  | mk outcome mid =>
    cases outcome with
    | error f => simp [hact] at hr
    | ok x =>
      rw [hact] at hr
      rw [Binder.bindAll_append, ← h b x mid hact]
      exact hn x mid a b' hr

/-- What follows without binding anything adds nothing. -/
theorem Binds.bind_nil {act : Attempt Binder α} {next : α → Attempt Binder β} {vs : List Value}
    (h : act.Binds vs) (hn : ∀ a, (next a).Binds []) : (act >>= next).Binds vs := by
  have hbind := h.bind hn
  rwa [List.append_nil] at hbind

/-- An attempt before which nothing is bound binds what follows it. -/
theorem Binds.ofExcept_bind {e : Except Failure α} {next : α → Attempt Binder β} {vs : List Value}
    (hn : ∀ a, e = .ok a → (next a).Binds vs) : (Attempt.ofExcept e >>= next).Binds vs := by
  cases e with
  | ok a => exact hn a rfl
  | error f => exact Binds.fail f vs

/-- A list of attempts binds the values of its items, item by item. -/
theorem Binds.forAll {items : List α} {act : α → Attempt Binder β} {values : α → List Value}
    (h : ∀ a ∈ items, (act a).Binds (values a)) :
    (Attempt.forAll items act).Binds (items.flatMap values) := by
  induction items with
  | nil => exact Binds.pure []
  | cons a rest ih =>
    have hrest := ih fun x hx => h x (List.mem_cons_of_mem _ hx)
    have hall := (h a List.mem_cons_self).bind fun b =>
      hrest.bind fun bs => Binds.pure (b :: bs)
    simpa [Attempt.forAll] using hall

end Attempt

end BoundSql
