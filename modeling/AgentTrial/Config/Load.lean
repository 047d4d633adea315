import AgentTrial.Config.Agent
import AgentTrial.Config.Harness
import AgentTrial.FileSystem.Lookup
import AgentTrial.Yaml.Decode

/-!
# Settings from files

- `HarnessConfig.load` and `AgentConfig.load` read a settings file; what it does not say keeps its
  default.
- `Task.load` reads a task directory.
-/

namespace AgentTrial

/-- Numbers in settings are words of 64 bits. -/
def wordBound : Nat := Nat.pow 2 64

/-- What is reported of a malformed document. Position and reason are not told. -/
def malformedText : String := "<yaml>"

open Yaml

/-- Verdict settings in a document. -/
def VerdictSettings.decode : Decoder VerdictSettings := fun d n => do
  let r ← record? ["kind", "start_marker", "end_marker", "empty_verdict"] d n
  let base : VerdictSettings := {}
  let format ← r.field "kind" (choice? [("marker", .marker), ("structured", .structured)])
    base.format
  let startMarker ← r.field "start_marker" text? base.startMarker
  let endMarker ← r.field "end_marker" text? base.endMarker
  let emptyVerdict ← r.field "empty_verdict"
    (choice? [("unresolved", .unresolved), ("resolved", .resolved)]) base.emptyVerdict
  pure { format, startMarker, endMarker, emptyVerdict }

/-- Sandbox settings in a document. -/
def SandboxSettings.decode : Decoder SandboxSettings := fun d n => do
  let r ← record? ["image_template", "registry", "registry_overrides", "network", "memory",
    "lifetime_secs", "docker_bin"] d n
  let base : SandboxSettings := {}
  let imageTemplate ← r.field "image_template" text? base.imageTemplate
  let registry ← r.field "registry" text? base.registry
  let registryOverrides ← r.field "registry_overrides" (dict? (list? text?)) base.registryOverrides
  let network ← r.field "network" text? base.network
  let memory ← r.field "memory" (optional? text?) base.memory
  let lifetimeSecs ← r.field "lifetime_secs" (natural? wordBound) base.lifetimeSecs
  let dockerBin ← r.field "docker_bin" text? base.dockerBin
  pure { imageTemplate, registry, registryOverrides, network, memory, lifetimeSecs, dockerBin }

/-- Harness settings in a document. -/
def HarnessConfig.decode : Decoder HarnessConfig := fun d n => do
  let r ← record? ["task_file", "tests_dir", "scoring_script", "remote_test_dir",
    "test_timeout_secs", "setup_timeout_secs", "setup_commands", "session_env", "upload_strategy",
    "parser", "sandbox", "keep_sandbox"] d n
  let base : HarnessConfig := {}
  let taskFile ← r.field "task_file" text? base.taskFile
  let testsDir ← r.field "tests_dir" text? base.testsDir
  let scoringScript ← r.field "scoring_script" text? base.scoringScript
  let remoteTestDir ← r.field "remote_test_dir" text? base.remoteTestDir
  let testTimeoutSecs ← r.field "test_timeout_secs" (natural? wordBound) base.testTimeoutSecs
  let setupTimeoutSecs ← r.field "setup_timeout_secs" (natural? wordBound) base.setupTimeoutSecs
  let setupCommands ← r.field "setup_commands" (list? text?) base.setupCommands
  let sessionEnv ← r.field "session_env" (dict? text?) base.sessionEnv
  let uploadStrategy ← r.field "upload_strategy"
    (choice? [("directory", .directory), ("archive", .archive)]) base.uploadStrategy
  let verdict ← r.field "parser" VerdictSettings.decode base.verdict
  let sandbox ← r.field "sandbox" SandboxSettings.decode base.sandbox
  let keepSandbox ← r.field "keep_sandbox" flag? base.keepSandbox
  pure { taskFile, testsDir, scoringScript, remoteTestDir, testTimeoutSecs, setupTimeoutSecs,
         setupCommands, sessionEnv, uploadStrategy, verdict, sandbox, keepSandbox }

/-- Reads harness settings from a file and checks them. -/
def HarnessConfig.load (fs : FileSystem) (path : String) : Except TrialError HarnessConfig :=
  match fs.readText path with
  | .error e => .error (.config s!"Failed to read {path}: {e.text}")
  | .ok content =>
    match decode? HarnessConfig.decode content with
    | none => .error (.yaml malformedText)
    | some config =>
      match config.validate with
      | .ok () => .ok config
      | .error e => .error e

/-- Agent settings in a document. -/
def AgentConfig.decode : Decoder AgentConfig := fun d n => do
  let r ← record? ["name", "project_path", "install_commands", "run_command", "prompt_template",
    "install_timeout_secs", "run_timeout_secs", "env"] d n
  let base : AgentConfig := {}
  let name ← r.field "name" text? base.name
  let projectPath ← r.field "project_path" text? base.projectPath
  let installCommands ← r.field "install_commands" (list? text?) base.installCommands
  let runCommand ← r.field "run_command" text? base.runCommand
  let promptTemplate ← r.field "prompt_template" (optional? text?) base.promptTemplate
  let installTimeoutSecs ← r.field "install_timeout_secs" (natural? wordBound)
    base.installTimeoutSecs
  let runTimeoutSecs ← r.field "run_timeout_secs" (natural? wordBound) base.runTimeoutSecs
  let env ← r.field "env" (dict? text?) base.env
  pure { name, projectPath, installCommands, runCommand, promptTemplate, installTimeoutSecs,
         runTimeoutSecs, env }

/-- Reads agent settings from a file and checks them. -/
def AgentConfig.load (fs : FileSystem) (path : String) : Except AgentError AgentConfig :=
  match fs.readText path with
  | .error e => .error (.config s!"cannot read {path}: {e.text}")
  | .ok content =>
    match decode? AgentConfig.decode content with
    | none => .error (.config s!"invalid agent config {path}: {malformedText}")
    | some config =>
      match config.validate with
      | .ok () => .ok config
      | .error e => .error e

/-- A task: what the agent is to do, and where its tests and its scoring script lie. -/
structure Task where
  instruction : String
  testsPath : String
  scriptPath : String
  deriving DecidableEq, Repr

namespace Task

/-- The instruction in a task file, empty where none is given. -/
def decodeInstruction : Decoder String := fun d n => do
  let r ← record? ["instruction"] d n
  (← r.field "instruction" (optional? text?) none).getD ""

/-- Reads a task directory. -/
def load (fs : FileSystem) (config : HarnessConfig) (dir : String) : Except TrialError Task :=
  let path := Path.join dir config.taskFile
  if fs.isFile path then
    match fs.readText path with
    | .error e => .error (.io e)
    | .ok content =>
      match decode? decodeInstruction content with
      | none => .error (.config s!"Invalid {path}: {malformedText}")
      | some instruction =>
        if Text.isAllBlank instruction then
          .error (.config s!"No instruction in {config.taskFile}")
        else
          .ok ⟨instruction, Path.join dir config.testsDir, Path.join dir config.scoringScript⟩
  else .error (.config s!"{config.taskFile} not found in {dir}")

end Task

end AgentTrial
