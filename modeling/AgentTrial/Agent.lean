import AgentTrial.Config.Agent
import AgentTrial.Sandbox.Routine

/-!
# The coding agent

An agent is a command-line program that is installed in a sandbox and then run once with its
prompt. Its exit code is reported and judged by nobody.

- `Agent.installation` opens the agent's session and runs its install commands in order; `install`
  does it in a sandbox.
- `Agent.launch` launches it on an instruction; `run` does it in a sandbox.
-/

namespace AgentTrial.Agent

/-- The session that holds the agent's environment. -/
def sessionName : String := "agent"

/-- What a failed call means for the agent: a timeout is its own, anything else the sandbox's. -/
def errorOf : SandboxError → AgentError
  | .timeout limit => .timeout limit
  | other => .sandbox other

/-- Runs a command in the agent's session, detached. -/
def runDetached (command : String) (limit : Duration) : Routine AgentError CommandOutput :=
  (Routine.ask (.run command (some sessionName) .nohup limit)).mapError errorOf

/-- Runs install commands until one fails. -/
def runInstall (limit : Duration) : List String → Routine AgentError Unit
  | [] => pure ()
  | command :: rest => do
    Routine.log .debug .agent
    let out ← runDetached command limit
    if out.isSuccess then runInstall limit rest
    else
      Routine.fail (.install s!"`{command}` exited with {out.exitCode}: {Text.trim out.output}")

/-- Prepares the agent in a sandbox that has been started. -/
def installation (config : AgentConfig) : Routine AgentError Unit := do
  (Routine.ask (.session sessionName config.env.entries)).mapError .sandbox
  runInstall config.installTimeout config.installCommands
  Routine.log .info .agent

/-- Launches the agent on an instruction. -/
def launch (config : AgentConfig) (instruction : String) : Routine AgentError CommandOutput := do
  Routine.log .info .agent
  let out ← runDetached (config.command (config.prompt instruction)) config.runTimeout
  Routine.log (if out.isSuccess then .debug else .warn) .agent
  return out

variable {σ : Type}

/-- Prepares the agent in a sandbox. -/
def install (config : AgentConfig) (backend : Backend σ) : Step σ AgentError Unit :=
  (installation config).perform backend

/-- Launches the agent in a sandbox. -/
def run (config : AgentConfig) (backend : Backend σ) (instruction : String) :
    Step σ AgentError CommandOutput :=
  (launch config instruction).perform backend

end AgentTrial.Agent
