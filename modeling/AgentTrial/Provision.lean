import AgentTrial.Config.Harness
import AgentTrial.FileSystem.Lookup
import AgentTrial.Provision.Packing
import AgentTrial.Sandbox.Routine
import AgentTrial.Shell.Quote
import AgentTrial.Text.Blank

/-!
# Provisioning

Brings the test assets and the scoring script of a task into its sandbox, as a directory or as an
archive that is unpacked there.

- `effective` is the strategy that a sandbox allows.
- `provisioning` does it and stops at the first step that fails; `provision` does it with a sandbox.
-/

namespace AgentTrial.Provision

/-- The limit of each remote step. -/
def stepLimit : Duration := .ofSecs 600

/-- The name of the archive in the sandbox. -/
def archiveName : String := "tests.tar.gz"

/-- The strategy for a sandbox: an archive where whole directories are not taken. -/
def effective (strategy : UploadStrategy) (takesDirs : Bool) : UploadStrategy :=
  if takesDirs then strategy else .archive

/-- The path of a name in the remote directory. -/
def remotePath (remoteDir name : String) : String :=
  Path.trimSlashes remoteDir ++ "/" ++ name

/-- The path of the archive in the sandbox. -/
def remoteArchive (remoteDir : String) : String := remotePath remoteDir archiveName

def makeDirCommand (remoteDir : String) : String := "mkdir -p " ++ Shell.quote remoteDir

/-- The command that unpacks the archive and deletes it. -/
def extractCommand (remoteDir : String) : String :=
  let archive := Shell.quote (remoteArchive remoteDir)
  "tar -xzf " ++ archive ++ " -C " ++ Shell.quote remoteDir ++ " && rm -f " ++ archive

/-- A call on a sandbox as part of a trial. -/
def ask (call : Call) : Routine TrialError call.Answer := (Routine.ask call).mapError .sandbox

/-- Runs a command in a session within the limit of a step. -/
def runStep (session command : String) : Routine TrialError CommandOutput :=
  ask (.run command (some session) .normal stepLimit)

/-- Uploads the scoring script into the remote directory. -/
def uploadScript (remoteDir script : String) : Routine TrialError Unit := do
  match Path.fileName? script with
  | none => Routine.fail (.provision "scoring script has no file name")
  | some name =>
    let remote := remotePath remoteDir name
    let accepted ← ask (.uploadFile (.file script) remote)
    if accepted = true then Routine.log .debug .provisioning
    else Routine.fail (.provision s!"upload of {script} to {remote} rejected")

/-- Uploads the test directory as it is, then the script. -/
def asDirectory (testDir remoteDir script : String) : Routine TrialError Unit := do
  let code ← ask (.uploadDir testDir remoteDir)
  if code = (0 : Int) then uploadScript remoteDir script
  else
    Routine.fail (.provision s!"directory upload of {testDir} to {remoteDir} exited with {code}")

/-- Makes the remote directory and uploads the script. -/
def openRemote (session remoteDir script : String) : Routine TrialError Unit := do
  let made ← runStep session (makeDirCommand remoteDir)
  if made.isSuccess then uploadScript remoteDir script
  else Routine.fail (.provision s!"failed to create {remoteDir}: {Text.trim made.stderr}")

/-- Uploads an archive and unpacks it. -/
def sendArchive (session remoteDir : String) (packed : Archive) : Routine TrialError Unit := do
  let remote := remoteArchive remoteDir
  let accepted ← ask (.uploadFile (.archive packed) remote)
  if accepted = true then
    let extracted ← runStep session (extractCommand remoteDir)
    if extracted.isSuccess then pure ()
    else
      Routine.fail (.provision s!"failed to extract test files: {Text.trim extracted.stderr}")
  else Routine.fail (.provision s!"upload of {Upload.archivePath} to {remote} rejected")

/-- Makes the remote directory, uploads the script and the packed test directory, and unpacks
it. -/
def asArchive (session : String) (packed : Ending TrialError Archive) (remoteDir script : String) :
    Routine TrialError Unit := do
  openRemote session remoteDir script
  sendArchive session remoteDir (← .ended packed)

/-- Brings a test directory and a scoring script into the remote directory, by how the directory was
packed. -/
def upload (strategy : UploadStrategy) (session testDir : String)
    (packed : Ending TrialError Archive) (remoteDir script : String) : Routine TrialError Unit :=
  match strategy with
  | .directory => asDirectory testDir remoteDir script
  | .archive => asArchive session packed remoteDir script

/-- Brings a test directory and a scoring script into the remote directory of a sandbox that may or
may not take whole directories. -/
def provisioning (scratch : Scratch) (takesDirs : Bool) (fs : FileSystem)
    (strategy : UploadStrategy) (session testDir remoteDir script : String) :
    Routine TrialError Unit := do
  match fs.directory? testDir with
  | none => Routine.fail (.provision s!"test directory not found: {testDir}")
  | some entries =>
    if fs.isFile script then
      Routine.logIf (effective strategy takesDirs ≠ strategy) .info .provisioning
      upload (effective strategy takesDirs) session testDir
        (scratch.told (packing scratch testDir entries)) remoteDir script
      Routine.log .info .provisioning
    else Routine.fail (.provision s!"scoring script not found: {script}")

variable {σ : Type}

/-- Brings a test directory and a scoring script into the remote directory of a sandbox. -/
def provision (backend : Backend σ) (scratch : Scratch) (fs : FileSystem)
    (strategy : UploadStrategy) (session testDir remoteDir script : String) :
    Step σ TrialError Unit :=
  (provisioning scratch backend.takesDirs fs strategy session testDir remoteDir script).perform
    backend

/-- Provisions and says only whether it went well. -/
def succeeds (backend : Backend σ) (scratch : Scratch) (fs : FileSystem)
    (strategy : UploadStrategy) (session testDir remoteDir script : String) :
    Step σ Empty Bool := do
  match ← (provision backend scratch fs strategy session testDir remoteDir script).attempt with
  | .ok () => return true
  | .error _ =>
    Step.log .error .provisioning
    return false

end AgentTrial.Provision
