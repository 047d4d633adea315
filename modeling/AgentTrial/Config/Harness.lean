import AgentTrial.Dict
import AgentTrial.Duration
import AgentTrial.Error
import AgentTrial.Text.LetterCase
import AgentTrial.Text.Template

/-!
# Harness settings

What holds for every trial of a run: where test assets come from and go to, how the verdict is
printed, which image a sandbox is made of, and the deadlines.

- `SandboxSettings.registryFor` and `imageFor` choose the image of a task.
- `HarnessConfig.validate` says which settings can be run with.
-/

namespace AgentTrial

/-- How test assets reach a sandbox. -/
inductive UploadStrategy where
  /-- The directory as a whole, through the sandbox. -/
  | directory
  /-- Packed here, uploaded as one file and unpacked there. -/
  | archive
  deriving DecidableEq, Repr

/-- The strategy that a word names, in any case. -/
def UploadStrategy.ofText (s : String) : Except String UploadStrategy :=
  let word := Text.lowercase s
  if word = "directory" ∨ word = "dir" then .ok .directory
  else if word = "archive" ∨ word = "tar" then .ok .archive
  else .error s!"Unknown upload strategy: {word}"

def UploadStrategy.name : UploadStrategy → String
  | .directory => "directory"
  | .archive => "archive"

/-- How a scoring script prints its verdict. -/
inductive VerdictFormat where
  /-- One word for the whole run. -/
  | marker
  /-- One line per test. -/
  | structured
  deriving DecidableEq, Repr

def VerdictFormat.name : VerdictFormat → String
  | .marker => "marker"
  | .structured => "structured"

/-- What a report without tests means. -/
inductive EmptyVerdict where
  | unresolved
  | resolved
  deriving DecidableEq, Repr

def EmptyVerdict.name : EmptyVerdict → String
  | .unresolved => "unresolved"
  | .resolved => "resolved"

/-- How the verdict is found in the output of a scoring script. -/
structure VerdictSettings where
  format : VerdictFormat := .marker
  startMarker : String := "SWEBench results starts here"
  endMarker : String := "SWEBench results ends here"
  emptyVerdict : EmptyVerdict := .unresolved

instance : Inhabited VerdictSettings := ⟨{}⟩

/-- Where images come from and how a container is sized. -/
structure SandboxSettings where
  imageTemplate : String := "\x7bregistry\x7dslimshetty/swebench-verified:sweb.eval.x86_64.\x7btask\x7d"
  registry : String := ""
  registryOverrides : Dict (List String) := .empty
  network : String := "bridge"
  memory : Option String := none
  lifetimeSecs : Nat := 7200
  dockerBin : String := "docker"

instance : Inhabited SandboxSettings := ⟨{}⟩

namespace SandboxSettings

/-- The registry that serves a task: the first override that lists it, or the default. -/
def registryFor (settings : SandboxSettings) (task : String) : String :=
  match settings.registryOverrides.entries.find? fun entry => entry.2.contains task with
  | some entry => entry.1
  | none => settings.registry

/-- A registry as it stands before a repository: with a slash, unless it is empty. -/
def registrySlot (registry : String) : String :=
  if registry.isEmpty || registry.toList.getLast? == some '/' then registry else registry ++ "/"

/-- The image of a task. -/
def imageFor (settings : SandboxSettings) (task : String) : String :=
  Text.Template.fill "\x7btask\x7d" task
    (Text.Template.fill "\x7bregistry\x7d" (registrySlot (settings.registryFor task))
      settings.imageTemplate)

end SandboxSettings

/-- The settings of a run. -/
structure HarnessConfig where
  taskFile : String := "task.yaml"
  testsDir : String := "tests"
  scoringScript : String := "run-tests.sh"
  remoteTestDir : String := "/tests"
  testTimeoutSecs : Nat := 3600
  setupTimeoutSecs : Nat := 3600
  setupCommands : List String := []
  sessionEnv : Dict String := .empty
  uploadStrategy : UploadStrategy := .directory
  verdict : VerdictSettings := {}
  sandbox : SandboxSettings := {}
  keepSandbox : Bool := false

instance : Inhabited HarnessConfig := ⟨{}⟩

namespace HarnessConfig

/-- Whether a run can start with these settings. -/
def validate (config : HarnessConfig) : Except TrialError Unit :=
  if config.verdict.startMarker.isEmpty || config.verdict.endMarker.isEmpty then
    .error (.config "verdict markers must not be empty")
  else if config.taskFile.isEmpty || config.scoringScript.isEmpty then
    .error (.config "task_file and scoring_script must be set")
  else if config.remoteTestDir.toList.head? ≠ some '/' then
    .error (.config s!"remote_test_dir must be absolute, got {config.remoteTestDir}")
  else .ok ()

def testTimeout (config : HarnessConfig) : Duration := .ofSecs config.testTimeoutSecs

def setupTimeout (config : HarnessConfig) : Duration := .ofSecs config.setupTimeoutSecs

end HarnessConfig

end AgentTrial
