import AgentTrial.Batch
import AgentTrial.CommandLine.Arguments
import AgentTrial.FileSystem.Write
import AgentTrial.Result.Summary
import AgentTrial.Sandbox.Container

/-!
# A run

What the program does once its arguments are read: it reads the settings, runs every task in a
container of its own, writes the summary to a file and prints it.

- `Machine` is what a run finds: files, programs, a clock and a calendar.
- `settings` are the settings with what the arguments override.
- `run` is the whole.
-/

namespace AgentTrial.CommandLine

/-- Why a run ends without results. -/
inductive RunError where
  | trial (e : TrialError)
  | agent (e : AgentError)
  /-- The summary could not be written. -/
  | file (e : FileError)
  deriving DecidableEq, Repr

namespace RunError

def text : RunError → String
  | .trial e => e.text
  | .agent e => e.text
  | .file e => e.text

/-- The error that lies under an error and is told after it. -/
def cause? : RunError → Option String
  | .trial (.yaml detail) => some detail
  | .trial (.io e) => some e.text
  | _ => none

/-- What the program says before it gives up. -/
def report (e : RunError) : String :=
  s!"Error: {e.text}\n" ++
    match e.cause? with
    | some cause => s!"\nCaused by:\n    {cause}\n"
    | none => ""

end RunError

/-- What a run finds: the files, how the disk takes packing, the container tool and the names it goes
by, what tells containers of one task apart, a clock, and a calendar that shows an instant for every
millisecond of the run. -/
structure Machine (κ : Type) where
  fs : FileSystem
  scratch : String → Provision.Scratch := fun _ => .steady
  tool : Tool κ
  installed : List String
  suffix : String
  clock : Clock
  calendar : Nat → Instant

/-- How a run ends and what it leaves: the files, the state of the tool, what it printed and what it
logged. -/
structure Finished (κ : Type) where
  ending : Ending RunError Unit
  fs : FileSystem
  tool : κ
  printed : String := ""
  log : List Log.Event := []

/-- The settings of a run: those of a file, if one is named, with what the arguments override. -/
def settings (fs : FileSystem) (args : Arguments) : Except TrialError HarnessConfig := do
  let config ← match args.config with
    | some path => HarnessConfig.load fs path
    | none => pure {}
  let config := { config with
    testTimeoutSecs := args.testTimeout.getD config.testTimeoutSecs
    uploadStrategy := args.uploadStrategy.getD config.uploadStrategy
    keepSandbox := args.keepSandbox || config.keepSandbox }
  config.validate
  return config

/-- The trial that every task gets. -/
def trialOf {κ : Type} (m : Machine κ) (args : Arguments) : Except RunError Trial := do
  if m.fs.isDir args.tasksDir then
    let config ← (settings m.fs args).mapError .trial
    let agent ← (AgentConfig.load m.fs args.agentConfig).mapError .agent
    return { config, agent, executor := { clock := m.clock }, fs := m.fs, scratch := m.scratch }
  else throw (.trial (.tasksDirMissing args.tasksDir))

/-- Makes the container of a task. -/
def maker {κ : Type} (m : Machine κ) (settings : SandboxSettings) (state : κ) :
    Maker (Container κ) := fun taskName =>
  let tool := m.tool.named m.fs m.installed settings.dockerBin
  .value ⟨Container.backend tool (.ofTask settings taskName m.suffix) m.fs, { tool := state }⟩

/-- The files after a text has been written to a path, with the directories above it made. -/
def writeBelow (fs : FileSystem) (path text : String) : Except FileError FileSystem := do
  let fs ← match Path.parent? path with
    | some parent => if parent.isEmpty then pure fs else fs.makeDirs parent
    | none => pure fs
  fs.writeText path text

/-- What is printed of a summary. -/
def printed (json : Bool) (s : Summary) : String :=
  if json then s.toJson.pretty ++ "\n" else s.text

/-- Runs every task under a directory and reports on them. -/
def run {κ : Type} (m : Machine κ) (state : κ) (args : Arguments) : Finished κ :=
  match trialOf m args with
  | .error e => { ending := .error e, fs := m.fs, tool := state }
  | .ok trial =>
    let begun : List Log.Event := [⟨.info, .commandLine⟩]
    match Batch.eligible m.fs trial.config args.tasksDir args.parallelism with
    | .error e => { ending := .error (.trial e), fs := m.fs, tool := state, log := begun }
    | .crash c => { ending := .crash c, fs := m.fs, tool := state, log := begun }
    | .value dirs =>
      let (timelines, tool) :=
        Batch.runInTurn trial (maker m trial.config.sandbox) Container.tool state dirs
      let placed := Batch.place args.parallelism timelines
      let summary := Summary.ofResults (placed.map (Batch.Placed.report m.calendar))
      let log := begun ++ Batch.log m.calendar placed
      match writeBelow m.fs args.output summary.toJson.pretty with
      | .error e => { ending := .error (.file e), fs := m.fs, tool, log }
      | .ok fs =>
        { ending := .value (), fs, tool, printed := printed args.json summary,
          log := log ++ [⟨.info, .commandLine⟩] }

end AgentTrial.CommandLine
