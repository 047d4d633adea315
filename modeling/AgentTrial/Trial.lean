import AgentTrial.Agent
import AgentTrial.Config.Load
import AgentTrial.Execution
import AgentTrial.Provision
import AgentTrial.Result.Outcome
import AgentTrial.Sandbox.Guard

/-!
# Trials

One task from beginning to end: its settings are read, a sandbox is made and started, the agent is
installed and run, the test assets are brought in, the scoring script is run, and its output is
read for a verdict. Whatever fails is the outcome, with the stage that failed.

- `pipeline` is the part inside the sandbox, `inside` adds the teardown.
- `Trial.begin` is the part before there is a sandbox, `Trial.run` is the whole.
- `Timeline.cutAt` is what is left of a trial that is dropped midway.
-/

namespace AgentTrial

/-- What a trial is made of: the settings, the agent, how executions wait, the files, and how the
disk takes the packing of the directory at a path. -/
structure Trial where
  config : HarnessConfig
  agent : AgentConfig
  executor : Execution.Executor
  fs : FileSystem
  scratch : String → Provision.Scratch := fun _ => .steady

/-- A sandbox that has been made, with its first state. -/
structure Made (σ : Type) where
  backend : Backend σ
  box : σ

/-- Makes the sandbox of a task by its name. -/
abbrev Maker (σ : Type) := String → Ending SandboxError (Made σ)

/-- A failure with the stage it belongs to. -/
structure StageFailure where
  stage : Stage
  error : TrialError
  deriving DecidableEq, Repr

/-- A character of names that sessions and containers may have. -/
def isNameSafe (c : Char) : Bool :=
  Shell.isAlphanumeric c || c == '-' || c == '_' || c == '.'

/-- The session of a task. -/
def sessionName (taskName : String) : String :=
  "swe-eval-" ++ taskName.map fun c => if isNameSafe c then c else '-'

/-- The file in the sandbox that receives the output of the scoring script. -/
def outputPath (remoteDir session : String) : String :=
  Path.trimSlashes remoteDir ++ "/" ++ session ++ ".out"

/-- The name of a task: the last name of its directory, or the whole path where there is none. -/
def taskNameOf (dir : String) : String := (Path.fileName? dir).getD dir

namespace Trial

/-- A routine as part of a stage. -/
def inStage {ε α : Type} (stage : Stage) (toError : ε → TrialError) (routine : Routine ε α) :
    Routine StageFailure α :=
  routine.mapError fun e => ⟨stage, toError e⟩

/-- Runs setup commands in a session until one fails. -/
def runSetup (session : String) (limit : Duration) : List String → Routine TrialError Unit
  | [] => pure ()
  | command :: rest => do
    let out ← (Routine.ask (.run command (some session) .nohup limit)).mapError .sandbox
    if out.isSuccess then runSetup session limit rest
    else
      Routine.fail (.provision
        s!"setup command `{command}` exited with {out.exitCode}: {Text.trim out.output}")

/-- The command that runs a script in the remote directory. -/
def scoringCommand (remoteDir script : String) : String :=
  "bash " ++ Shell.quote (Path.trimSlashes remoteDir ++ "/" ++ script)

/-- Runs the scoring script to its end and takes its output. -/
def executeTests (trial : Trial) (session : String) (task : Task) :
    Routine TrialError String := do
  match Path.fileName? task.scriptPath with
  | none => Routine.fail (.config "scoring script has no file name")
  | some script =>
    let remoteDir := Path.trimSlashes trial.config.remoteTestDir
    match ← (trial.executor.execution (scoringCommand remoteDir script) session
        trial.config.testTimeoutSecs (outputPath remoteDir session)).safely with
    | .completed output => return output
    | .timedOut =>
      Routine.log .warn .trial
      Routine.fail (.executionTimeout trial.config.testTimeoutSecs)
    | .dispatchError detail => Routine.fail (.executionDispatch detail)

/-- Reads the verdict in an output, and logs what is wrong with it. -/
def readVerdict (settings : VerdictSettings) (output : String) :
    Routine StageFailure Verdict := do
  let (verdict, warning) := Verdict.read settings output
  Routine.logIf warning.isSome .warn .verdict
  Routine.logIf (Verdict.skipsLine settings output) .debug .verdict
  return verdict

/-- The part of a trial inside its sandbox, which may or may not take whole directories. -/
def pipeline (trial : Trial) (takesDirs : Bool) (taskName : String) (task : Task) :
    Routine StageFailure Verdict := do
  let config := trial.config
  inStage .environmentStarting .sandbox (Routine.ask .start)
  inStage .agentInstalling .agent (Agent.installation trial.agent)
  let _ ← inStage .agentRunning .agent (Agent.launch trial.agent task.instruction)
  Routine.log .info .trial
  let session := sessionName taskName
  inStage .provisioning .sandbox (Routine.ask (.session session config.sessionEnv.entries))
  inStage .provisioning id (runSetup session config.setupTimeout config.setupCommands)
  inStage .provisioning id (Provision.provisioning (trial.scratch task.testsPath) takesDirs trial.fs
    config.uploadStrategy session task.testsPath config.remoteTestDir task.scriptPath)
  let output ← inStage .testExecuting id (trial.executeTests session task)
  readVerdict config.verdict output

/-- The outcome of a pipeline by how it ended. -/
def outcomeOf : Ending StageFailure Verdict → Outcome
  | .value verdict => .ofVerdict verdict
  | .error failure => .failed (some failure.stage) failure.error.text
  | .crash c => .ofCrash c

/-- A trial inside a sandbox that has been made: the pipeline and then, whatever became of it, the
release of the sandbox. -/
def inside (trial : Trial) (takesDirs : Bool) (taskName : String) (task : Task) :
    Routine Empty Outcome := do
  let ending ← (trial.pipeline takesDirs taskName task).settle
  Routine.log (if ending.isValue then .info else .error) .trial
  Guard.releasing trial.config.keepSandbox
  return outcomeOf ending

end Trial

/-- A trial in time: what it found out, unless a crash escaped it, how long it took, whether there
was a sandbox, the calls on it in their order, and the events logged. -/
structure Timeline where
  finding : Except Crash Finding
  sandboxId : Option String
  length : Nat
  entries : List Entry
  log : List Log.Event

namespace Timeline

/-- A trial that ended before there was a sandbox. -/
def withoutSandbox (finding : Except Crash Finding) (log : List Log.Event) : Timeline :=
  ⟨finding, none, 0, [], log⟩

/-- A trial that failed before there was a sandbox. -/
def failedEarly (taskName : String) (stage : Stage) (error : TrialError) (log : List Log.Event) :
    Timeline :=
  withoutSandbox (.ok ⟨taskName, none, .failed (some stage) error.text⟩) log

/-- A trial inside a sandbox, from its end. -/
def ofCourse {σ : Type} (taskName : String) (id : String) (ending : Ending Empty Outcome)
    (c : Course σ) : Timeline where
  finding := match ending with
    | .value outcome => .ok ⟨taskName, some id, outcome⟩
    | .crash p => .error p
  sandboxId := some id
  length := c.now
  entries := c.entries.toList
  log := c.log.toList

/-- What a trial reports that began at an instant, or the crash that escapes it: one that escaped
before, or that of a calendar which ends before the trial. -/
def result (t : Timeline) (startedAt : Instant) : Except Crash TaskResult :=
  match t.finding with
  | .ok finding => TaskResult.new finding startedAt (.ofMillis t.length)
  | .error c => .error c

end Timeline

/-- The course of a trial as it enters the sandbox that has been made for it. -/
def Made.course {σ : Type} (made : Made σ) (now : Nat) : Course σ :=
  ⟨now, made.box, #[], #[⟨.info, .trial⟩]⟩

/-- How a trial begins: it is over before there is a sandbox, or it goes on in one. -/
inductive Beginning (σ : Type) where
  | early (timeline : Timeline)
  | inSandbox (made : Made σ) (task : Task)

namespace Trial

variable {σ : Type}

/-- Reads the task of a directory and makes its sandbox. -/
def begin (trial : Trial) (make : Maker σ) (dir : String) : Beginning σ :=
  let taskName := taskNameOf dir
  let begun : Log.Event := ⟨.info, .trial⟩
  let failed : Log.Event := ⟨.error, .trial⟩
  match Task.load trial.fs trial.config dir with
  | .error e => .early (.failedEarly taskName .configLoading e [begun, failed])
  | .ok task =>
    match make taskName with
    | .crash c => .early (.withoutSandbox (.error c) [begun])
    | .error e =>
      .early (.failedEarly taskName .environmentStarting (.sandbox e) [begun, failed])
    | .value made => .inSandbox made task

/-- Runs a trial on a task directory. Gives also the state its sandbox was left in. -/
def runWith (trial : Trial) (make : Maker σ) (dir : String) : Timeline × Option σ :=
  match trial.begin make dir with
  | .early timeline => (timeline, none)
  | .inSandbox made task =>
    let (ending, c) := (trial.inside made.backend.takesDirs (taskNameOf dir) task).perform
      made.backend (made.course 0)
    (.ofCourse (taskNameOf dir) made.backend.id ending c, some c.box)

/-- Runs a trial on a task directory. -/
def run (trial : Trial) (make : Maker σ) (dir : String) : Timeline :=
  (trial.runWith make dir).1

end Trial

/-! ## Trials dropped midway -/

namespace Timeline

/-- An entry as it stands when its caller is dropped at an instant. -/
def cutEntry (instant : Nat) (e : Entry) : Entry :=
  if e.ended ≤ instant then e else { e with ended := instant, answered := false }

/-- Whether a call is a stop. -/
def isStop (e : Entry) : Bool :=
  match e.call with
  | .stop => true
  | _ => false

/-- The calls on the sandbox when the trial is dropped at an instant. What is due at that instant
still happens first. A guard that has not been released then makes its stop at once; it is released
from the moment its own stop begins. -/
def cutAt (t : Timeline) (keep : Bool) (instant : Nat) : List Entry :=
  if t.length ≤ instant then t.entries
  else
    let made := (t.entries.filter (·.began ≤ instant)).map (cutEntry instant)
    if t.sandboxId.isNone ∨ keep ∨ made.any isStop then made
    else made ++ [⟨.stop, instant, instant, true⟩]

end Timeline

end AgentTrial
