import AgentTrial.Sandbox.Step

/-!
# Routines

What is to be done with a sandbox, apart from any sandbox: a tree of calls, each with what follows
the answers it may get. A routine can be performed from beginning to end, and it can be halted
between any two waits.

- `Routine` is such a tree; it ends with a value, with an error that the caller deals with, or in a
  crash.
- `Routine.follow` goes on after every ending, `bind` after a value only.
- `Routine.perform` does it with a sandbox.
-/

namespace AgentTrial

/-! ## Deadlines -/

/-- The clock of a machine that deadlines are told by. When the instants of a course begin to be
counted, it has been going for some milliseconds. -/
structure Clock where
  uptime : Nat
  deriving DecidableEq, Repr

namespace Clock

/-- Clocks count seconds in signed words of 64 bits. -/
def lastSecond : Nat := Nat.pow 2 63 - 1

/-- Whether the clock can show, at an instant, a deadline so many seconds ahead. -/
def reaches (clock : Clock) (now secs : Nat) : Bool :=
  (clock.uptime + now) / 1000 + secs ≤ lastSecond

end Clock

/-! ## Trees of calls -/

/-- What is to be done with a sandbox. -/
inductive Routine (ε α : Type) where
  /-- Nothing more. -/
  | ended (ending : Ending ε α)
  /-- A call is made and its end waited for. -/
  | call (call : Call) (next : Ending SandboxError call.Answer → Routine ε α)
  /-- A call is made and its end waited for, but no longer than `limit`. What follows is told how
  long it took as well. -/
  | callWithin (limit : Nat) (call : Call)
      (next : Nat → Ending SandboxError (Option call.Answer) → Routine ε α)
  /-- Time passes. -/
  | sleep (millis : Nat) (next : Routine ε α)
  /-- An event is logged. -/
  | note (event : Log.Event) (next : Routine ε α)
  /-- A clock is asked whether it reaches a deadline so many seconds ahead. -/
  | deadline (clock : Clock) (secs : Nat) (next : Bool → Routine ε α)
  /-- The guard of the sandbox is released: from here on nobody but the routine stops it. -/
  | release (next : Routine ε α)

namespace Routine

variable {ε ε' α β : Type}

/-- Goes on after a routine by how it ended. -/
def follow : Routine ε α → (Ending ε α → Routine ε' β) → Routine ε' β
  | .ended ending, next => next ending
  | .call asked rest, next => .call asked fun ending => (rest ending).follow next
  | .callWithin limit asked rest, next =>
    .callWithin limit asked fun elapsed ending => (rest elapsed ending).follow next
  | .sleep millis rest, next => .sleep millis (rest.follow next)
  | .note event rest, next => .note event (rest.follow next)
  | .deadline clock secs rest, next => .deadline clock secs fun told => (rest told).follow next
  | .release rest, next => .release (rest.follow next)

/-- Ends with a value at once. -/
def pure (a : α) : Routine ε α := .ended (.value a)

/-- Ends with an error. -/
def fail (e : ε) : Routine ε α := .ended (.error e)

/-- Ends in a crash. -/
def crash (p : Crash) : Routine ε α := .ended (.crash p)

/-- Goes on with the value of a routine. -/
def bind (routine : Routine ε α) (next : α → Routine ε β) : Routine ε β :=
  routine.follow fun
    | .value a => next a
    | .error e => fail e
    | .crash p => crash p

instance : Monad (Routine ε) where
  pure := Routine.pure
  bind := Routine.bind

/-- Makes a call and waits for its answer. -/
def ask (asked : Call) : Routine SandboxError asked.Answer := .call asked .ended

/-- Makes a call and waits for its answer, with an error as a value. -/
def request (asked : Call) : Routine ε (Except SandboxError asked.Answer) :=
  .call asked fun
    | .value a => pure (.ok a)
    | .error e => pure (.error e)
    | .crash p => crash p

/-- Logs an event. -/
def log (level : Log.Level) (source : Log.Source) : Routine ε Unit :=
  .note ⟨level, source⟩ (pure ())

/-- Logs an event where there is reason to. -/
def logIf (reason : Bool) (level : Log.Level) (source : Log.Source) : Routine ε Unit :=
  if reason then log level source else pure ()

/-- The same routine with its errors told otherwise. -/
def mapError (f : ε → ε') (routine : Routine ε α) : Routine ε' α :=
  routine.follow fun
    | .value a => pure a
    | .error e => fail (f e)
    | .crash p => crash p

/-- A routine that ends in no error, where one that may is asked for. -/
def safely (routine : Routine Empty α) : Routine ε α := routine.mapError Empty.elim

/-- The routine with its errors as values. -/
def attempt (routine : Routine ε α) : Routine Empty (Except ε α) :=
  routine.follow fun
    | .value a => pure (.ok a)
    | .error e => pure (.error e)
    | .crash p => crash p

/-- The routine with its errors and crashes as values. -/
def settle (routine : Routine ε α) : Routine Empty (Ending ε α) := routine.follow pure

variable {σ : Type}

/-- Does a routine with a sandbox from beginning to end. -/
def perform (backend : Backend σ) : Routine ε α → Step σ ε α
  | .ended ending => fun c => (ending, c)
  | .call asked next => fun c =>
    let (ending, d) := backend.call asked c
    (next ending).perform backend d
  | .callWithin limit asked next => fun c =>
    let (ending, d) := backend.callWithin limit asked c
    (next (d.now - c.now) ending).perform backend d
  | .sleep millis next => fun c => next.perform backend { c with now := c.now + millis }
  | .note event next => fun c => next.perform backend { c with log := c.log.push event }
  | .deadline clock secs next => fun c => (next (clock.reaches c.now secs)).perform backend c
  | .release next => next.perform backend

end Routine

end AgentTrial
