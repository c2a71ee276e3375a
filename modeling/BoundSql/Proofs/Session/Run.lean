import BoundSql.Session.Run

/-!
# Runs step by step

The equations that runs of nested steps are reasoned with: a call with steps inside it is its
surroundings around one attempt, and a list of steps either stops with the failure of its first step
or goes on behind it.
-/

namespace BoundSql.Step

variable {L : Type} [Connection L]

/-- The steps inside a call as an attempt on its frame: what they came to is kept there, and a
failure that was not caught is the failure of the attempt. -/
def inside (body : List Step) (receiver : Receiver) : Attempt (Frame L) Unit := fun fr =>
  let (entries, failure, s) := runAll body receiver fr.session
  ((match failure with
    | none => .ok ()
    | some failure => .error failure), ⟨s, some entries⟩)

/-- A block runs its body inside, and has its outcomes below its own. -/
theorem run_block (site : Site) (b : Block) (body : List Step) (here : Receiver) (s : Session L) :
    run (.block site b body) here s =
      let r := (b.around site here (inside body) body.length).run ⟨s, none⟩
      (⟨r.1, r.2.inner⟩, r.2.session) := by
  rw [run]
  rfl

/-- The failure that ends a list of steps, if its first step came to an entry that does so. -/
def stops (step : Step) (entry : Entry) : Option Failure :=
  match entry.outcome, step.site.caught with
  | .error failure, false => some failure
  | _, _ => none

theorem runAll_cons (step : Step) (rest : List Step) (here : Receiver) (s : Session L) :
    runAll (step :: rest) here s =
      let r := run step here s
      match stops step r.1 with
      | some failure => ([r.1], some failure, r.2)
      | none =>
        let q := runAll rest here r.2
        (r.1 :: q.1, q.2.1, q.2.2) := by
  rw [runAll]
  rcases run step here s with ⟨entry, t⟩
  dsimp only [stops]
  cases entry.outcome with
  | ok answer => rfl
  | error failure => cases step.site.caught <;> rfl

/-- A script ends with its last step, run whatever came of the steps ahead of it. -/
theorem play_concat (front : List Step) (step : Step) (s : Session L) :
    play (front ++ [step]) s =
      let p := play front s
      let r := run step (.builder 0) p.2
      (p.1 ++ [r.1], r.2) := by
  rw [play, List.foldl_append]
  rfl

end BoundSql.Step
