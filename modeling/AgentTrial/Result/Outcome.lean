import AgentTrial.Duration
import AgentTrial.Number.Binary64
import AgentTrial.Time.Instant
import AgentTrial.Verdict.Report

/-!
# Results

How a trial ended, and the result of a task as it is reported.

- `Outcome` is a verdict or the stage that failed.
- `TaskResult.new` adds when the trial began and how long it took.
-/

namespace AgentTrial

/-- The stages of a trial in their order. -/
inductive Stage where
  | configLoading
  | environmentStarting
  | agentInstalling
  | agentRunning
  | provisioning
  | testExecuting
  | verdictParsing
  deriving DecidableEq, Repr

def Stage.name : Stage → String
  | .configLoading => "config_loading"
  | .environmentStarting => "environment_starting"
  | .agentInstalling => "agent_installing"
  | .agentRunning => "agent_running"
  | .provisioning => "provisioning"
  | .testExecuting => "test_executing"
  | .verdictParsing => "verdict_parsing"

def Stage.all : List Stage :=
  [.configLoading, .environmentStarting, .agentInstalling, .agentRunning, .provisioning,
    .testExecuting, .verdictParsing]

/-- How a trial ended: with a verdict, or with an error at a stage. A crash has no stage. -/
inductive Outcome where
  | success (resolved : Bool) (tests : Option (Dict TestStatus))
  | failed (stage : Option Stage) (error : String)

/-- What is reported of a crash in a trial. -/
def Crash.report (c : Crash) : String := s!"task runner panicked: {c.text}"

namespace Outcome

def ofVerdict (v : Verdict) : Outcome := .success v.resolved v.tests

/-- The outcome of a crash. -/
def ofCrash (c : Crash) : Outcome := .failed none c.report

def isResolved : Outcome → Bool
  | .success resolved _ => resolved
  | .failed _ _ => false

def isFailed : Outcome → Bool
  | .success _ _ => false
  | .failed _ _ => true

def error? : Outcome → Option String
  | .success _ _ => none
  | .failed _ error => some error

/-- A short word for an outcome. -/
def label : Outcome → String
  | .success true _ => "resolved"
  | .success false _ => "unresolved"
  | .failed (some stage) _ => s!"failed@{stage.name}"
  | .failed none _ => "failed"

end Outcome

/-- Seconds in double precision: whole seconds and the fraction, each rounded, and their sum. -/
def Duration.toSeconds (d : Duration) : Binary64 :=
  (Binary64.ofNat d.secs).addMagnitudes (Binary64.ofRatio d.subsecNanos 1000000000)

/-- What a trial found out about a task. The sandbox is none where none was made. -/
structure Finding where
  taskName : String
  sandboxId : Option String
  outcome : Outcome

/-- The result of a task. -/
structure TaskResult where
  taskName : String
  sandboxId : Option String
  outcome : Outcome
  startedAt : Instant
  completedAt : Instant
  durationSecs : Binary64

namespace TaskResult

/-- A finding with its times. It crashes where the calendar ends before the trial does. -/
def new (f : Finding) (startedAt : Instant) (duration : Duration) : Except Crash TaskResult :=
  match startedAt.add duration with
  | .ok completedAt =>
    .ok ⟨f.taskName, f.sandboxId, f.outcome, startedAt, completedAt, duration.toSeconds⟩
  | .error c => .error c

/-- A failure that is recorded without a trial, at one instant. -/
def failed (taskName : String) (stage : Option Stage) (error : String) (now : Instant) :
    TaskResult :=
  ⟨taskName, none, .failed stage error, now, now, (⟨0⟩ : Duration).toSeconds⟩

end TaskResult

end AgentTrial
