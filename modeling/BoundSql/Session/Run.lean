import BoundSql.Session.Action

/-!
# Running scripts

A script runs step by step. At the top a failed step is recorded and the next one runs. Inside a
call that runs steps, a failure that is not caught ends the steps and becomes the failure of the
call, after the call has tidied up: a group is closed, a transaction rolled back, a builder put
back.
-/

namespace BoundSql

/-- A session while a call runs steps inside it. -/
structure Frame (L : Type) [Connection L] where
  /-- The session. -/
  session : Session L
  /-- What the steps came to; nothing before they are run. -/
  inner : Option (List Entry)

namespace Frame

variable {L : Type} [Connection L]

/-- The session inside a frame. -/
def sessionPart : Part (Frame L) (Session L) := ⟨session, fun session f => { f with session }⟩

/-- The connection and the log inside a frame. -/
def linePart : Part (Frame L) (Line L) :=
  ⟨fun f => f.session.line, fun line f => { f with session := { f.session with line } }⟩

/-- A builder inside a frame. -/
def builderPart (n : Nat) : Part (Frame L) Builder :=
  ⟨fun f => f.session.builder n,
    fun b f => { f with session := (Session.builderPart n).put b f.session }⟩

end Frame

namespace Block

variable {L : Type} [Connection L]

/-- Add a member to the conditions of a builder. -/
def addToken (n : Nat) (token : Token) (f : Frame L) : Frame L :=
  let query := (f.session.builder n).query
  let extended := { query with wheres := query.wheres ++ [token] }
  { f with session := (Session.queryPart n).put extended f.session }

/-- Run the steps of a call, given as what they do to a receiver, with all that the call does around
them. The number of steps is the answer of calls that return what their steps return. -/
def around (site : Site) (here : Receiver) (body : Receiver → Attempt (Frame L) Unit)
    (count : Nat) : Block → Attempt (Frame L) Answer
  | group connector => do
    let receiver ← (Session.receiverOf site here).within Frame.sessionPart
    let connector ← .ofExcept (Connector.ofArgument connector)
    let n := receiver.number
    .update (addToken n (.opening connector))
    (body (.group n)).ensuring (addToken n .closing)
    (Session.returned receiver).within Frame.sessionPart
  | transaction => do
    let n ← (Session.needBuilder site here).within Frame.sessionPart
    Line.transactional .noConnection Frame.linePart (body (.builder n))
    pure (.number count)
  | preserve => do
    let n ← (Session.needBuilder site here).within Frame.sessionPart
    Attempt.preserving (Frame.builderPart n) (body (.builder n))
    pure (.number count)
  | newTransaction register => do
    Line.transactional .absentCall Frame.linePart do
      let n ← (Session.newBuilder register).within Frame.sessionPart
      body (.builder n)
    pure (.number count)

end Block

namespace Step

variable {L : Type} [Connection L]

mutual

/-- Run a step for a receiver. -/
def run : Step → Receiver → Session L → Entry × Session L
  | plain site action, here, s =>
    let (outcome, s) := action.perform site here s
    (⟨outcome, none⟩, s)
  | block site b body, here, s =>
    let inside := fun receiver (f : Frame L) =>
      let (entries, failure, s) := runAll body receiver f.session
      ((match failure with
        | none => .ok ()
        | some failure => .error failure), ⟨s, some entries⟩)
    let (outcome, f) := b.around site here inside body.length ⟨s, none⟩
    (⟨outcome, f.inner⟩, f.session)

/-- Run steps for a receiver until one fails and is not caught. -/
def runAll : List Step → Receiver → Session L → List Entry × Option Failure × Session L
  | [], _, s => ([], none, s)
  | step :: rest, here, s =>
    let (entry, s) := run step here s
    match entry.outcome, step.site.caught with
    | .error failure, false => ([entry], some failure, s)
    | _, _ =>
      let (entries, failure, s) := runAll rest here s
      (entry :: entries, failure, s)

end

/-- Run a script: every step, whether those before it failed or not. -/
def play (steps : List Step) (s : Session L) : List Entry × Session L :=
  steps.foldl
    (fun (entries, s) step =>
      let (entry, s) := run step (.builder 0) s
      (entries ++ [entry], s))
    ([], s)

end Step

end BoundSql
