import AgentTrial.CommandLine.Run
import AgentTrial.Log.Filter

/-!
# The program

The program as a whole, from its words and the settings in its environment to its exit: what it
prints, what it says about mistakes, which events its log shows, and its exit code.

- `Environment` is what it looks up outside its words.
- `execute` is the program.
-/

namespace AgentTrial.CommandLine

/-- The name and the version of the program. -/
def versionText : String := "swe-eval 0.1.0\n"

/-- How the program is called. -/
def usageText : String :=
  "Usage: swe-eval [--log-level <LEVEL>] run <TASKS_DIR> [PARALLELISM] [AGENT_CONFIG]\n" ++
  "           [--config <FILE>] [--output <FILE>] [--test-timeout <SECS>]\n" ++
  "           [--upload-strategy <STRATEGY>] [--keep-sandbox] [--json]\n"

/-- What is wrong with the words, for a mistake. -/
def Refusal.reason : Refusal → String
  | .help | .version | .nothingGiven => ""
  | .missingCommand => "error: a command is missing\n"
  | .unknownCommand => "error: there is no such command\n"
  | .unknownArgument => "error: an argument is unknown\n"
  | .missingArgument => "error: the tasks directory is missing\n"
  | .missingValue => "error: the value of an option is missing\n"
  | .invalidValue => "error: a value is invalid\n"
  | .unexpectedValue => "error: an option takes no value\n"
  | .repeated => "error: an option is given twice\n"

/-- The settings in the environment: the log filter, and the file with the settings of runs. -/
structure Environment where
  logFilter : Option String := none
  config : Option String := none

/-- How the program exits and what it leaves. -/
structure Exit (κ : Type) where
  code : Nat
  stdout : String := ""
  stderr : String := ""
  /-- The events that the log shows. -/
  shown : List Log.Event := []
  fs : FileSystem
  tool : κ

/-- The exit of a program that is not run. Help and the version are no mistake. -/
def refuse {κ : Type} (m : Machine κ) (state : κ) (refusal : Refusal) : Exit κ :=
  match refusal with
  | .version => { code := 0, stdout := versionText, fs := m.fs, tool := state }
  | .help => { code := 0, stdout := usageText, fs := m.fs, tool := state }
  | mistake =>
    { code := 2, stderr := mistake.reason ++ usageText, fs := m.fs, tool := state }

/-- The exit code of a crash. -/
def crashCode : Nat := 101

/-- The program. -/
def execute {κ : Type} (m : Machine κ) (state : κ) (env : Environment) (words : List String) :
    Exit κ :=
  match Arguments.ofWords env.config words with
  | .error refusal => refuse m state refusal
  | .ok args =>
    let (filter, complaints) := Log.Filter.choose env.logFilter args.logLevel
    let done := run m state args
    let exit : Exit κ :=
      { code := 0, stdout := done.printed, stderr := complaints,
        shown := done.log.filter filter.shows, fs := done.fs, tool := done.tool }
    match done.ending with
    | .value () => exit
    | .error e => { exit with code := 1, stderr := complaints ++ e.report }
    | .crash c => { exit with code := crashCode, stderr := complaints ++ c.text ++ "\n" }

end AgentTrial.CommandLine
