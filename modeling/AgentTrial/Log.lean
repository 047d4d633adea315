/-!
# Log events

What a run tells while it goes on: an event has a level and comes from one part of the harness. The
wording of the lines is not modelled, only which of them there are.
-/

namespace AgentTrial.Log

/-- How grave an event is, the gravest first. -/
inductive Level where
  | error
  | warn
  | info
  | debug
  | trace
  deriving DecidableEq, Repr

/-- The place of a level in the order from grave to chatty. -/
def Level.rank : Level → Nat
  | .error => 1
  | .warn => 2
  | .info => 3
  | .debug => 4
  | .trace => 5

def Level.name : Level → String
  | .error => "ERROR"
  | .warn => "WARN"
  | .info => "INFO"
  | .debug => "DEBUG"
  | .trace => "TRACE"

/-- The part of the harness that an event comes from. -/
inductive Source where
  | commandLine
  | batch
  | trial
  | agent
  | execution
  | provisioning
  | sandbox
  | verdict
  deriving DecidableEq, Repr

/-- The name that log filters know a part by. -/
def Source.target : Source → String
  | .commandLine => "swe_eval::cli::commands"
  | .batch => "swe_eval::runner::orchestrator"
  | .trial => "swe_eval::runner::task"
  | .agent => "swe_eval::runner::agents::generic"
  | .execution => "swe_eval::runner::executor"
  | .provisioning => "swe_eval::runner::provision"
  | .sandbox => "swe_eval::runner::sandbox"
  | .verdict => "swe_eval::runner::verifier"

/-- An event of a run. -/
structure Event where
  level : Level
  source : Source
  deriving DecidableEq, Repr

end AgentTrial.Log
