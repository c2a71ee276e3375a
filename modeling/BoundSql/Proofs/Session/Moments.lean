import BoundSql.Proofs.Session.Run

/-!
# Moments of a run

A call with steps inside it enters, runs the steps for a receiver, and leaves; the steps run at most
once, from the session that entering has left, and nothing else of them is looked at but their
outcome. So a run comes through certain sessions one after another, those inside of its calls
included, and at each of them certain group calls are under way.
-/

namespace BoundSql

variable {σ L α β ρ : Type}

namespace Attempt

/-- The attempt that ends in the given way. -/
def replay (r : Except Failure α × σ) : Attempt σ α := fun _ => r

/-- A call runs its body once, for the answer and from the state that an attempt before it ends
with, and not at all if that attempt fails. The rest depends on what the body ends with only. -/
def Surrounds (before : Attempt σ ρ) (call : (ρ → Attempt σ β) → Attempt σ α) : Prop :=
  ∀ s, ∃ leave : Except Failure β × σ → Except Failure α × σ, ∀ body,
    (call body).run s =
      match before.run s with
      | (.ok receiver, t) => leave ((body receiver).run t)
      | (.error failure, t) => (.error failure, t)

namespace Surrounds

/-- What comes behind the body looks only at what the body ends with. -/
theorem of_rest (before : Attempt σ ρ) (rest : Attempt σ β → Attempt σ α)
    (h : ∀ act s, (rest act).run s = (rest (replay (act.run s))).run s) :
    Surrounds before fun body => before >>= fun receiver => rest (body receiver) := by
  intro s
  rcases hbefore : before.run s with ⟨outcome, t⟩
  refine ⟨fun r => (rest (replay r)).run t, fun body => ?_⟩
  rw [run_bind, hbefore]
  cases outcome with
  | ok receiver => exact h (body receiver) t
  | error failure => rfl

/-- What runs ahead of a call runs ahead of its body. -/
theorem bind {γ : Type} {first : Attempt σ γ} {before : γ → Attempt σ ρ}
    {call : γ → (ρ → Attempt σ β) → Attempt σ α} (h : ∀ a, Surrounds (before a) (call a)) :
    Surrounds (first >>= before) fun body => first >>= fun a => call a body := by
  intro s
  rcases hfirst : first.run s with ⟨outcome, t⟩
  cases outcome with
  | ok a =>
    obtain ⟨leave, hleave⟩ := h a t
    refine ⟨leave, fun body => ?_⟩
    rw [run_bind, run_bind, hfirst]
    exact hleave body
  | error failure =>
    refine ⟨fun _ => (.error failure, t), fun body => ?_⟩
    rw [run_bind, run_bind, hfirst]

/-- What runs in front of the body, and answers always, may be counted to what is before it. -/
theorem extend {γ : Type} {before : Attempt σ γ} {call : (γ → Attempt σ β) → Attempt σ α}
    (h : Surrounds before call) (front : γ → Attempt σ ρ)
    (hfront : ∀ a s, ∃ receiver t, (front a).run s = (.ok receiver, t)) :
    Surrounds (before >>= front) fun body => call fun a => front a >>= body := by
  intro s
  obtain ⟨leave, hleave⟩ := h s
  refine ⟨leave, fun body => ?_⟩
  rw [hleave, run_bind]
  rcases before.run s with ⟨outcome, t⟩
  cases outcome with
  | ok a =>
    obtain ⟨receiver, t', hrun⟩ := hfront a t
    dsimp only
    rw [run_bind, hrun]
  | error failure => rfl

/-- What runs behind a call runs behind its body. -/
theorem then_bind {γ : Type} {before : Attempt σ ρ} {call : (ρ → Attempt σ β) → Attempt σ α}
    (h : Surrounds before call) (next : α → Attempt σ γ) :
    Surrounds before fun body => call body >>= next := by
  intro s
  obtain ⟨leave, hleave⟩ := h s
  refine ⟨fun r => (replay (leave r) >>= next).run s, fun body => ?_⟩
  rw [run_bind, hleave]
  rcases before.run s with ⟨outcome, t⟩
  cases outcome with
  | ok receiver => rfl
  | error failure => rfl

end Surrounds

end Attempt

namespace Line

variable [Connection L]

/-- Begin a transaction unless one is open. -/
def enter (absent : Failure) (line : Part σ (Line L)) : Attempt σ Unit := do
  let joins ← (ask absent (do return Connection.inTransaction (← .state))).within line
  if joins then pure () else (signal absent Connection.begin .transactionBegin).within line

/-- A transaction is begun, unless one is open, before the body runs. -/
theorem surrounds_transactional (absent : Failure) (line : Part σ (Line L)) :
    Attempt.Surrounds (enter absent line)
      fun body : Unit → Attempt σ α => transactional absent line (body ()) := by
  refine Attempt.Surrounds.bind fun joins => ?_
  cases joins with
  | true => exact .of_rest (pure ()) id fun _ _ => rfl
  | false => exact .of_rest _ (fun act => act.outcome >>= conclude absent line) fun _ _ => rfl

end Line

variable [Connection L]

namespace Block

/-- The builders on which a call opens a group for the steps inside it. -/
def opens : Block → Receiver → List Nat
  | group _, receiver => [receiver.number]
  | _, _ => []

/-- What a call with steps inside it does before they run. The answer is their receiver. -/
def enter (site : Site) (here : Receiver) : Block → Attempt (Frame L) Receiver
  | group connector => do
    let receiver ← (Session.receiverOf site here).within Frame.sessionPart
    let connector ← .ofExcept (Connector.ofArgument connector)
    let n := receiver.number
    .update (addToken n (.opening connector))
    pure (.group n)
  | transaction => do
    let n ← (Session.needBuilder site here).within Frame.sessionPart
    Line.enter .noConnection Frame.linePart
    pure (.builder n)
  | preserve => do
    let n ← (Session.needBuilder site here).within Frame.sessionPart
    pure (.builder n)
  | newTransaction register => do
    Line.enter .absentCall Frame.linePart
    let n ← (Session.newBuilder register).within Frame.sessionPart
    pure (.builder n)

/-- The steps run once, for the receiver and from the session that entering the call ends with. -/
theorem surrounds_around (site : Site) (here : Receiver) (count : Nat) (b : Block) :
    Attempt.Surrounds (b.enter (L := L) site here) fun body => b.around site here body count := by
  cases b with
  | group connector =>
    refine .bind fun receiver => .bind fun connector => .bind fun _ => ?_
    exact .of_rest (pure (Receiver.group receiver.number))
      (fun act => act.ensuring (addToken receiver.number .closing) >>= fun _ =>
        (Session.returned receiver).within Frame.sessionPart) fun _ _ => rfl
  | transaction =>
    refine .bind fun n => ?_
    have htransaction := Line.surrounds_transactional (α := Unit) .noConnection
      (Frame.linePart (L := L))
    exact (htransaction.extend (fun _ => pure (Receiver.builder n)) fun _ fr =>
      ⟨_, fr, rfl⟩).then_bind _
  | preserve =>
    refine .bind fun n => ?_
    exact .of_rest (pure (Receiver.builder n))
      (fun act => Attempt.preserving (Frame.builderPart n) act >>= fun _ =>
        pure (Answer.number count)) fun _ _ => rfl
  | newTransaction register =>
    have htransaction := Line.surrounds_transactional (α := Unit) .absentCall
      (Frame.linePart (L := L))
    have hmade : ∀ fr : Frame L, ∃ receiver fr',
        ((Session.newBuilder register).within Frame.sessionPart >>= fun n =>
          pure (Receiver.builder n)).run fr = (.ok receiver, fr') := fun _ => ⟨_, _, rfl⟩
    exact (htransaction.extend _ fun _ => hmade).then_bind _

end Block

namespace Step

/-- Steps that run for a receiver from a session come through a session, and group calls on the
builders of some numbers, all of them inside these steps, are under way then. -/
inductive Passes : List Step → Receiver → Session L → List Nat → Session L → Prop
  /-- Before the first step. -/
  | start {steps : List Step} {here : Receiver} {s : Session L} : Passes steps here s [] s
  /-- After the first step, whatever it came to. -/
  | after {step : Step} {rest : List Step} {here : Receiver} {s : Session L} :
    Passes (step :: rest) here s [] (run step here s).2
  /-- Behind a first step that does not end the steps. -/
  | behind {step : Step} {rest : List Step} {here : Receiver} {s t : Session L}
    {running : List Nat} (hgoes : stops step (run step here s).1 = none)
    (h : Passes rest here (run step here s).2 running t) : Passes (step :: rest) here s running t
  /-- Inside a first step that has been entered. -/
  | inside {site : Site} {b : Block} {body rest : List Step} {here receiver : Receiver}
    {s t : Session L} {fr : Frame L} {running : List Nat}
    (henter : (b.enter site here).run ⟨s, none⟩ = (.ok receiver, fr))
    (h : Passes body receiver fr.session running t) :
    Passes (.block site b body :: rest) here s (running ++ b.opens receiver) t

/-- A script, which goes on behind steps that failed, comes through a session, and group calls on
the builders of some numbers are under way then. -/
def Reaches (steps : List Step) (s : Session L) (running : List Nat) (t : Session L) : Prop :=
  ∃ front back, steps = front ++ back ∧ Passes back (.builder 0) (play front s).2 running t

/-- A script comes through what its steps come through when they run for the first builder. -/
theorem Passes.reaches {steps : List Step} {s t : Session L} {running : List Nat}
    (h : Passes steps (.builder 0) s running t) : Reaches steps s running t :=
  ⟨[], steps, rfl, h⟩

/-- A run comes through the session it ends with, and no call is under way then. -/
theorem passes_end (steps : List Step) (here : Receiver) (s : Session L) :
    Passes steps here s [] (runAll steps here s).2.2 := by
  induction steps generalizing s with
  | nil => exact .start
  | cons step rest ih =>
    rw [runAll_cons]
    dsimp only
    cases hstops : stops step (run step here s).1 with
    | some failure => exact .after
    | none => exact .behind hstops (ih _)

end Step

end BoundSql
