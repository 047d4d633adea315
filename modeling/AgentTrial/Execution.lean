import AgentTrial.Sandbox.Routine
import AgentTrial.Shell.Quote
import AgentTrial.Text.Blank
import AgentTrial.Text.Digit

/-!
# Execution against a deadline

A sandbox cannot run a command in the background, so a command is launched detached, its process is
probed until it is gone or a deadline passes, and its output is then read from a file.

- `dispatchCommand`, `probeCommand` and `collectCommand` are the three commands.
- `extractPid?` finds the process in the answer to the launch.
- `round` probes the process once, and `Terms.execution` is the whole for any way of waiting.
- `Executor` waits with a pause between two probes (`poll`), `restless` waits without one.
-/

namespace AgentTrial.Execution

/-- The command that launches `command` detached, with all its output in a file, and reports its
process the way a shell reports a job. -/
def dispatchCommand (command outputPath : String) : String :=
  "nohup sh -c " ++ Shell.quote command ++ " < /dev/null > " ++ Shell.quote outputPath ++
    " 2>&1 & echo \"[1] $!\""

/-- The command that succeeds only while a process exists and is no zombie. -/
def probeCommand (pid : Nat) : String :=
  s!"kill -0 {pid} 2>/dev/null && ! grep -qs '^State:[[:space:]]*Z' /proc/{pid}/status"

/-- The command that prints the output. -/
def collectCommand (outputPath : String) : String :=
  "cat " ++ Shell.quote outputPath

/-- The number after a job in brackets, as its digits: `[1] 42`. -/
def jobNumber? (line : List Char) : Option (List Char) :=
  match line with
  | '[' :: rest =>
    let job := rest.takeWhile Text.isDigit
    match rest.dropWhile Text.isDigit with
    | ']' :: rest =>
      let gap := rest.takeWhile Text.isBlank
      let number := rest.dropWhile Text.isBlank
      if job ≠ [] ∧ gap ≠ [] ∧ number ≠ [] ∧ number.all Text.isDigit then some number else none
    | _ => none
  | _ => none

/-- Process numbers are below this bound. -/
def pidBound : Nat := Nat.pow 2 32

/-- The process that the last job line of a text with a number in bounds reports. Zero is no
process. -/
def extractPid? (output : String) : Option Nat :=
  let jobs := (Text.lines output.toList).reverse.filterMap fun line =>
    jobNumber? (Text.trimChars line)
  (jobs.findSome? (Text.boundedNat? pidBound)).filter (0 < ·)

/-- How an execution ends. -/
inductive Result where
  /-- The process is gone; its output. -/
  | completed (output : String)
  /-- The deadline passed with the process still there. -/
  | timedOut
  /-- The command could not be launched or its output not be read. -/
  | dispatchError (detail : String)
  deriving DecidableEq, Repr

/-- The text of the crash when a deadline cannot be told. -/
def overflowText : String := "overflow when adding duration to instant"

/-- What a probe tells of a process. -/
inductive Sign where
  | gone
  | alive
  /-- Nothing: the probe failed or was not answered in time. -/
  | unclear
  deriving DecidableEq, Repr

/-- What the end of a probe tells, unless it is a crash. -/
def Sign.of : Ending SandboxError (Option Int) → Except Crash Sign
  | .value (some code) => .ok (if code = 0 then .alive else .gone)
  | .value none => .ok .unclear
  | .error _ => .ok .unclear
  | .crash p => .error p

/-! ## Waiting -/

/-- One round of waiting for a process that may take so much longer. The probe may take as long as
time remains, and one pause at least. An error or no answer in time counts as alive. `again` is what
is done after the pause with the time that is left then, which is less unless there is no pause. -/
def round {ε : Type} (pause : Nat) (probe session : String) (remaining : Nat)
    (again : (left : Nat) → (0 < pause → left < remaining) → Routine ε Bool) : Routine ε Bool :=
  .callWithin (max remaining pause) (.probe probe session) fun elapsed ending =>
    match Sign.of ending with
    | .error p => .crash p
    | .ok .gone => .pure true
    | .ok sign => do
      Routine.logIf (sign = .unclear) .warn .execution
      let left := remaining - elapsed
      if spent : left = 0 then
        Routine.log .warn .execution
        return false
      else
        .sleep (min pause left) (again (left - min pause left) (by omega))

/-- What executions go by besides the pause between probes: the limit of the calls that launch a
command and collect its output, and the clock that deadlines are told by. -/
structure Terms where
  dispatchLimit : Duration := .ofSecs 60
  clock : Clock

namespace Terms

variable {ε : Type}

/-- Reads the output of a process that is gone. -/
def collect (terms : Terms) (session outputPath : String) : Routine ε Result := do
  match ← Routine.request
      (.run (collectCommand outputPath) (some session) .normal terms.dispatchLimit) with
  | .ok out =>
    if out.isSuccess then return .completed out.output
    else
      return .dispatchError
        s!"failed to read {outputPath} (exit {out.exitCode}): {Text.trim out.stderr}"
  | .error e => return .dispatchError s!"failed to read {outputPath}: {e.text}"

/-- Collects the output of a process that is gone, and of no other. -/
def conclude (terms : Terms) (session outputPath : String) (gone : Bool) : Routine ε Result := do
  if gone then
    Routine.log .debug .execution
    terms.collect session outputPath
  else return .timedOut

/-- Waits for a process that has been launched and collects its output, at most `timeoutSecs` seconds
from now on. `wait` probes the process until it is gone or so many milliseconds have passed. -/
def await (terms : Terms) (wait : String → String → Nat → Routine ε Bool) (pid : Nat)
    (session : String) (timeoutSecs : Nat) (outputPath : String) : Routine ε Result := do
  Routine.log .info .execution
  .deadline terms.clock timeoutSecs fun told =>
    if told then
      wait (probeCommand pid) session (timeoutSecs * 1000) >>= terms.conclude session outputPath
    else Routine.crash (.message overflowText)

/-- Runs a command and waits for its output, at most `timeoutSecs` seconds after its launch. -/
def execution (terms : Terms) (wait : String → String → Nat → Routine ε Bool)
    (command session : String) (timeoutSecs : Nat) (outputPath : String) : Routine ε Result := do
  Routine.log .debug .execution
  match ← Routine.request
      (.run (dispatchCommand command outputPath) (some session) .normal terms.dispatchLimit) with
  | .error e => return .dispatchError s!"dispatch failed: {e.text}"
  | .ok response =>
    match extractPid? response.output with
    | none =>
      Routine.log .warn .execution
      return .dispatchError s!"could not extract PID from: {Text.trim response.output}"
    | some pid => terms.await wait pid session timeoutSecs outputPath

end Terms

/-- How executions wait: the pause between probes in milliseconds, which is not zero. -/
structure Executor extends Terms where
  pollInterval : Nat := 1000
  paced : 0 < pollInterval := by decide

namespace Executor

/-- Probes a process until it is gone or no time remains, and says whether it is gone. -/
def poll (executor : Executor) (probe session : String) (remaining : Nat) : Routine Empty Bool :=
  round executor.pollInterval probe session remaining fun left less =>
    have := less executor.paced
    executor.poll probe session left
termination_by remaining

/-- Runs a command and waits for its output, at most `timeoutSecs` seconds after its launch. -/
def execution (executor : Executor) : (command session : String) → (timeoutSecs : Nat) →
    (outputPath : String) → Routine Empty Result :=
  executor.toTerms.execution executor.poll

variable {σ : Type}

/-- Runs a command in a sandbox and waits for its output. -/
def execute (executor : Executor) (backend : Backend σ) (command session : String)
    (timeoutSecs : Nat) (outputPath : String) : Step σ Empty Result :=
  (executor.execution command session timeoutSecs outputPath).perform backend

end Executor

/-! ## Waiting without a pause -/

/-- What stands at the end of a routine that is followed no further. -/
inductive Unfinished where
  | broken
  deriving DecidableEq, Repr

/-- So many rounds of waiting without a pause. While probes take no time either, no time passes, and
no number of rounds is enough. -/
def spin (probe session : String) : (rounds remaining : Nat) → Routine Unfinished Bool
  | 0, _ => .fail .broken
  | rounds + 1, remaining =>
    round 0 probe session remaining fun left _ => spin probe session rounds left

/-- An execution without a pause between its probes, as far as so many probes. -/
def Terms.restless (terms : Terms) (rounds : Nat) : (command session : String) →
    (timeoutSecs : Nat) → (outputPath : String) → Routine Unfinished Result :=
  terms.execution fun probe session => spin probe session rounds

end AgentTrial.Execution
