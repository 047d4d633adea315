import AgentTrial.Config.Harness
import AgentTrial.Sandbox.Step
import AgentTrial.Sandbox.Tool
import AgentTrial.Shell.Quote
import AgentTrial.Text.Blank

/-!
# Containers as sandboxes

A sandbox that is one container for as long as it is up, managed by a container tool. What the tool
is asked is told by the argument lists it is launched with.

- `Container` is what is kept of a container between two calls.
- `runArguments` and `execArguments` are the two long argument lists.
- `start`, `stop` and the rest do what the calls on a sandbox ask for.
- `Container.backend` is the sandbox.
-/

namespace AgentTrial

/-- What is kept between two calls on a container: the sessions, the newest first, whether a
container may exist, whether it takes commands, and the state of the tool. -/
structure Container (κ : Type) where
  sessions : List (String × List (String × String)) := []
  /-- Set once the tool has been asked to run a container; there may be one from then on. -/
  attempted : Bool := false
  started : Bool := false
  tool : κ

namespace Container

/-- The environment of a session. No session, or one that was never made, has an empty one. -/
def environment {κ : Type} (box : Container κ) (session : Option String) :
    List (String × String) :=
  match session with
  | none => []
  | some name => ((box.sessions.find? (·.1 = name)).map (·.2)).getD []

/-! ## Names and arguments -/

/-- A character of a task name as a container name has it. -/
def safeChar (c : Char) : Char :=
  if Shell.isAlphanumeric c || c == '-' || c == '_' || c == '.' then c.toLower else '-'

/-- The name of the container of a task; the suffix tells its containers apart. -/
def idOf (taskName suffix : String) : String :=
  s!"swe-eval-{taskName.map safeChar}-{suffix}"

/-- What a container is made of. -/
structure Spec where
  id : String
  image : String
  settings : SandboxSettings

/-- The container of a task as its settings make it. -/
def Spec.ofTask (settings : SandboxSettings) (taskName suffix : String) : Spec :=
  ⟨idOf taskName suffix, settings.imageFor taskName, settings⟩

/-- The arguments that remove the container. -/
def Spec.removeArguments (spec : Spec) : List String := ["rm", "-f", spec.id]

/-- The arguments that run the container. It gets an init that reaps: without one, a detached process
that is gone would still be seen. -/
def Spec.runArguments (spec : Spec) : List String :=
  ["run", "-d", "--init", "--name", spec.id, s!"--network={spec.settings.network}"] ++
    (spec.settings.memory.map fun memory => s!"--memory={memory}").toList ++
    [spec.image, "sleep", toString spec.settings.lifetimeSecs]

/-- The arguments that execute a command in the container with an environment. -/
def Spec.execArguments (spec : Spec) (environment : List (String × String)) (command : String) :
    List String :=
  ["exec"] ++ environment.flatMap (fun (key, value) => ["-e", s!"{key}={value}"]) ++
    [spec.id, "bash", "-c", command]

/-- The arguments that copy a local path into the container. -/
def Spec.copyArguments (spec : Spec) (path remote : String) : List String :=
  ["cp", path, s!"{spec.id}:{remote}"]

/-! ## Calls -/

/-- The limit of requests that manage the container. -/
def controlLimit : Duration := .ofSecs 600

/-- The limit of a probe. -/
def probeLimit : Duration := .ofSecs 30

/-- The limit for making the directory that an upload goes to. -/
def makeDirLimit : Duration := .ofSecs 60

/-- The command that runs `command` apart from the session, with its errors among its output. -/
def detached (command : String) : String :=
  "nohup bash -c " ++ Shell.quote command ++ " < /dev/null 2>&1"

/-- Whether what is to be uploaded lies here as a regular file. -/
def isHere (fs : FileSystem) : Upload → Bool
  | .file path => fs.isFile path
  | .archive _ => true

variable {κ : Type}

/-- Launches the tool. -/
def ask (tool : Tool κ) (args : List String) (limit : Duration) :
    Step (Container κ) SandboxError CommandOutput := do
  let (ending, after) := tool.launch (← Step.state).tool args
  Step.update fun box => { box with tool := after }
  match ending with
  | .finished out => return out
  | .unavailable cause => Step.fail (.command s!"docker not available: {cause.text}")
  | .hanging =>
    Step.sleep limit.ticks
    Step.fail (.timeout limit)

/-- Refuses where the container is not started. -/
def requireStarted (spec : Spec) : Step (Container κ) SandboxError Unit := do
  if (← Step.state).started then pure () else Step.fail (.notStarted spec.id)

/-- Removes what an earlier run may have left, and runs the container. -/
def start (tool : Tool κ) (spec : Spec) : Step (Container κ) SandboxError Unit := do
  Step.log .info .sandbox
  match ← (ask tool spec.removeArguments controlLimit).attempt.safely with
  | .ok _ => pure ()
  | .error _ => Step.log .debug .sandbox
  Step.update fun box => { box with attempted := true }
  let out ← (ask tool spec.runArguments controlLimit).mapError fun e => .start e.text
  if out.isSuccess then
    Step.update fun box => { box with started := true }
    Step.log .info .sandbox
  else
    Step.fail (.start s!"docker run exited with {out.exitCode}: {Text.trim out.stderr}")

/-- Removes the container, if there may be one. -/
def stop (tool : Tool κ) (spec : Spec) : Step (Container κ) SandboxError Unit := do
  Step.update fun box => { box with started := false }
  if (← Step.state).attempted then
    Step.update fun box => { box with attempted := false }
    Step.log .info .sandbox
    let out ← ask tool spec.removeArguments controlLimit
    if out.isSuccess then pure ()
    else Step.fail (.command s!"docker rm failed: {Text.trim out.stderr}")

/-- Keeps the environment of a session. -/
def createSession (spec : Spec) (name : String) (env : List (String × String)) :
    Step (Container κ) SandboxError Unit := do
  requireStarted spec
  Step.log .debug .sandbox
  Step.update fun box => { box with sessions := (name, env) :: box.sessions }

/-- Executes a command in a session. -/
def exec (tool : Tool κ) (spec : Spec) (command : String) (session : Option String)
    (limit : Duration) : Step (Container κ) SandboxError CommandOutput := do
  let env := (← Step.state).environment session
  ask tool (spec.execArguments env command) limit

/-- Runs a command. -/
def runCommand (tool : Tool κ) (spec : Spec) (command : String) (session : Option String)
    (mode : RunMode) (limit : Duration) : Step (Container κ) SandboxError CommandOutput := do
  requireStarted spec
  Step.log .debug .sandbox
  let command := match mode with
    | .normal => command
    | .nohup => detached command
  exec tool spec command session limit

/-- Runs a short command for its exit code. -/
def probe (tool : Tool κ) (spec : Spec) (command session : String) :
    Step (Container κ) SandboxError Int := do
  requireStarted spec
  return (← exec tool spec command (some session) probeLimit).exitCode

/-- Copies a file that lies here into the container. A refusal of the tool is no error. -/
def copyFile (tool : Tool κ) (spec : Spec) (fs : FileSystem) (upload : Upload) (remote : String) :
    Step (Container κ) SandboxError Bool := do
  requireStarted spec
  if isHere fs upload then
    let out ← ask tool (spec.copyArguments upload.path remote) controlLimit
    if out.isSuccess then pure () else Step.log .warn .sandbox
    return out.isSuccess
  else Step.fail (.upload s!"local file not found: {upload.path}")

/-- Makes a directory in the container and copies what is in a local one into it. -/
def copyDir (tool : Tool κ) (spec : Spec) (dir remote : String) :
    Step (Container κ) SandboxError Int := do
  requireStarted spec
  let made ← runCommand tool spec ("mkdir -p " ++ Shell.quote remote) none .normal makeDirLimit
  if made.isSuccess then
    return (← ask tool (spec.copyArguments (dir ++ "/.") remote) controlLimit).exitCode
  else return made.exitCode

/-- What a call does. -/
def answer (tool : Tool κ) (spec : Spec) (fs : FileSystem) :
    (call : Call) → Step (Container κ) SandboxError call.Answer
  | .start => start tool spec
  | .stop => stop tool spec
  | .session name env => createSession spec name env
  | .run command session mode limit => runCommand tool spec command session mode limit
  | .probe command session => probe tool spec command session
  | .uploadFile upload remote => copyFile tool spec fs upload remote
  | .uploadDir dir remote => copyDir tool spec dir remote

/-- The container as a sandbox. -/
def backend (tool : Tool κ) (spec : Spec) (fs : FileSystem) : Backend (Container κ) where
  id := spec.id
  takesDirs := true
  respond box now call :=
    let (ending, c) := answer tool spec fs call { Course.begin box with now }
    ({ ending, delay := c.now - now, log := c.log.toList }, c.box)

end Container

end AgentTrial
