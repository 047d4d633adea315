import AgentTrial.Sandbox.Routine

/-!
# Guarding sandboxes

A sandbox that has been made is owned by a guard until it is torn down. At the regular end of a
trial the guard is released, which stops the sandbox; a guard that is dropped before leaves the stop
to be made on its own, at once.

- `releasing` is the regular end, `release` does it with a sandbox.
- `dropping` is what a dropped guard leaves behind, `deferredStop` does it.
-/

namespace AgentTrial.Guard

/-- Stops a sandbox, unless it is to be kept. An error is logged and no more; a crash unwinds. The
guard counts as released before the stop is made. -/
def releasing (keep : Bool) : Routine Empty Unit :=
  .release do
    if keep then Routine.log .info .sandbox
    else
      match ← (Routine.ask .stop).attempt with
      | .ok () => pure ()
      | .error _ => Routine.log .warn .sandbox

/-- Whether a guard that is dropped has a stop to schedule. -/
def owesStop (released keep : Bool) : Bool := !(released || keep)

/-- What a dropped guard leaves to be done: the stop, if it owes one. Errors and crashes of it reach
nobody. -/
def dropping (released keep : Bool) : Routine Empty Unit := do
  if owesStop released keep then
    Routine.log .warn .sandbox
    match ← (Routine.ask .stop).settle with
    | .error _ => Routine.log .warn .sandbox
    | _ => pure ()

variable {σ : Type}

/-- Releases the guard of a sandbox. -/
def release (backend : Backend σ) (keep : Bool) : Step σ Empty Unit :=
  (releasing keep).perform backend

/-- The stop that a guard dropped without release schedules. -/
def deferredStop (backend : Backend σ) (keep : Bool) : Step σ Empty Unit :=
  (dropping false keep).perform backend

end AgentTrial.Guard
