import AgentTrial.Duration
import AgentTrial.FileSystem.Error

/-!
# Errors

What can go wrong in a trial, one type per party: the sandbox, the agent, and the trial itself. Each
error is a cause; its wording is one function, `text`.
-/

namespace AgentTrial

/-- A failed call on a sandbox. -/
inductive SandboxError where
  | start (detail : String)
  | command (detail : String)
  | timeout (limit : Duration)
  | upload (detail : String)
  | notStarted (id : String)
  | io (cause : FileError)
  deriving DecidableEq, Repr

/-- The text of a sandbox error. -/
def SandboxError.text : SandboxError → String
  | .start detail => s!"Failed to start sandbox: {detail}"
  | .command detail => s!"Command failed: {detail}"
  | .timeout limit => s!"Command timed out after {limit.text}"
  | .upload detail => s!"Upload failed: {detail}"
  | .notStarted id => s!"Sandbox {id} is not started"
  | .io cause => s!"IO error: {cause.text}"

/-- A failure of the coding agent. -/
inductive AgentError where
  | config (detail : String)
  | install (detail : String)
  | timeout (limit : Duration)
  | sandbox (cause : SandboxError)
  deriving DecidableEq, Repr

/-- The text of an agent error. -/
def AgentError.text : AgentError → String
  | .config detail => s!"Configuration error: {detail}"
  | .install detail => s!"Agent installation failed: {detail}"
  | .timeout limit => s!"Agent timed out after {limit.text}"
  | .sandbox cause => s!"Sandbox error: {cause.text}"

/-- A failure of a trial or of a batch of trials. -/
inductive TrialError where
  | config (detail : String)
  | provision (detail : String)
  | executionTimeout (seconds : Nat)
  | executionDispatch (detail : String)
  | parse (detail : String)
  | sandbox (cause : SandboxError)
  | agent (cause : AgentError)
  | tasksDirMissing (path : String)
  | noTasks (path : String)
  | io (cause : FileError)
  | yaml (detail : String)
  deriving DecidableEq, Repr

/-- The text of a trial error. -/
def TrialError.text : TrialError → String
  | .config detail => s!"Configuration error: {detail}"
  | .provision detail => s!"Provisioning failed: {detail}"
  | .executionTimeout seconds => s!"Execution timed out after {seconds}s"
  | .executionDispatch detail => s!"Execution dispatch failed: {detail}"
  | .parse detail => s!"Verdict parse error: {detail}"
  | .sandbox cause => s!"Sandbox error: {cause.text}"
  | .agent cause => s!"Agent error: {cause.text}"
  | .tasksDirMissing path => s!"Tasks directory does not exist: {path}"
  | .noTasks path => s!"No valid task directories found in {path}"
  | .io cause => s!"IO error: {cause.text}"
  | .yaml detail => s!"YAML error: {detail}"

/-- How a crash unwinds: with a text, or with a value that has none. -/
inductive Crash where
  | message (text : String)
  | opaqueValue
  deriving DecidableEq, Repr

/-- What is reported of a crash. -/
def Crash.text : Crash → String
  | .message text => text
  | .opaqueValue => "unknown panic"

end AgentTrial
