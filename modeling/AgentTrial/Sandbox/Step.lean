import AgentTrial.Sandbox.Call

/-!
# Steps of a trial

A step does something with a sandbox and takes time. Time is virtual: it passes only while a step
waits, so a course of calls is determined by the answers and how long they take.

- `Entry` records one call, `Course` all that has happened so far.
- `Step` is a computation over a course; errors stop it, crashes unwind it, and neither undoes what
  has happened.
- `call` waits for an answer, `callWithin` no longer than a limit, `sleep` for a time.
-/

namespace AgentTrial

/-- A call with the instants at which it was made and at which its caller stopped waiting, and
whether it was answered without error by then. -/
structure Entry where
  call : Call
  began : Nat
  ended : Nat
  answered : Bool
  deriving DecidableEq, Repr

/-- What has happened: the time in milliseconds, the state of the sandbox, the calls made and the
events logged. -/
structure Course (σ : Type) where
  now : Nat
  box : σ
  entries : Array Entry
  log : Array Log.Event

/-- The course of a trial that begins. -/
def Course.begin {σ : Type} (box : σ) : Course σ := ⟨0, box, #[], #[]⟩

/-- A computation over a course. -/
def Step (σ ε α : Type) := Course σ → Ending ε α × Course σ

namespace Step

variable {σ ε ε' α β : Type}

/-- Ends with a value at once. -/
def pure (a : α) : Step σ ε α := fun c => (.value a, c)

/-- Goes on with the value of a step. -/
def bind (step : Step σ ε α) (next : α → Step σ ε β) : Step σ ε β := fun c =>
  match step c with
  | (.value a, c) => next a c
  | (.error e, c) => (.error e, c)
  | (.crash p, c) => (.crash p, c)

instance : Monad (Step σ ε) where
  pure := Step.pure
  bind := Step.bind

/-- Ends with an error. -/
def fail (e : ε) : Step σ ε α := fun c => (.error e, c)

/-- Ends in a crash. -/
def crash (p : Crash) : Step σ ε α := fun c => (.crash p, c)

/-- The time. -/
def now : Step σ ε Nat := fun c => (.value c.now, c)

/-- Changes the state of the sandbox. -/
def update (f : σ → σ) : Step σ ε Unit := fun c => (.value (), { c with box := f c.box })

/-- The state of the sandbox. -/
def state : Step σ ε σ := fun c => (.value c.box, c)

/-- Lets time pass. -/
def sleep (millis : Nat) : Step σ ε Unit := fun c => (.value (), { c with now := c.now + millis })

/-- Logs an event. -/
def log (level : Log.Level) (source : Log.Source) : Step σ ε Unit := fun c =>
  (.value (), { c with log := c.log.push ⟨level, source⟩ })

/-- The same step with its errors told otherwise. -/
def mapError (f : ε → ε') (step : Step σ ε α) : Step σ ε' α := fun c =>
  match step c with
  | (.value a, c) => (.value a, c)
  | (.error e, c) => (.error (f e), c)
  | (.crash p, c) => (.crash p, c)

/-- A step that ends in no error, where one that may is asked for. -/
def safely (step : Step σ Empty α) : Step σ ε α := step.mapError Empty.elim

/-- The step with its errors as values. -/
def attempt (step : Step σ ε α) : Step σ Empty (Except ε α) := fun c =>
  match step c with
  | (.value a, c) => (.value (.ok a), c)
  | (.error e, c) => (.value (.error e), c)
  | (.crash p, c) => (.crash p, c)

/-- The step with its errors and crashes as values. -/
def settle (step : Step σ ε α) : Step σ Empty (Ending ε α) := fun c =>
  let (ending, c) := step c
  (.value ending, c)

end Step

/-- Whether an ending is a value. -/
def Ending.isValue {ε α : Type} : Ending ε α → Bool
  | .value _ => true
  | _ => false

namespace Backend

variable {σ : Type}

/-- Makes a call and waits for its end. -/
def call (backend : Backend σ) (call : Call) : Step σ SandboxError call.Answer := fun c =>
  let (reply, box) := backend.respond c.box c.now call
  let ended := c.now + reply.delay
  (reply.ending,
    { now := ended
      box := box
      entries := c.entries.push ⟨call, c.now, ended, reply.ending.isValue⟩
      log := c.log ++ reply.log })

/-- Makes a call and waits for its end, but no longer than `limit`. An end right at the limit is
still seen. -/
def callWithin (backend : Backend σ) (limit : Nat) (call : Call) :
    Step σ SandboxError (Option call.Answer) := fun c =>
  let (reply, box) := backend.respond c.box c.now call
  if reply.delay ≤ limit then
    let ended := c.now + reply.delay
    let ending := match reply.ending with
      | .value a => .value (some a)
      | .error e => .error e
      | .crash p => .crash p
    (ending,
      { now := ended
        box := box
        entries := c.entries.push ⟨call, c.now, ended, reply.ending.isValue⟩
        log := c.log ++ reply.log })
  else
    (.value none,
      { now := c.now + limit
        box := box
        entries := c.entries.push ⟨call, c.now, c.now + limit, false⟩
        log := c.log ++ reply.log })

end Backend

end AgentTrial
