import AgentTrial.Dict
import AgentTrial.Duration
import AgentTrial.Error
import AgentTrial.Shell.Quote
import AgentTrial.Text.Blank
import AgentTrial.Text.Template

/-!
# Agent settings

How a coding agent is installed and launched, and what it is told.

- `AgentConfig.prompt` fills the prompt template with the project path and the instruction.
- `AgentConfig.command` fills the launch command with the quoted prompt.
-/

namespace AgentTrial

/-- What an agent is told when its settings say nothing else. -/
def defaultPrompt : String :=
"<uploaded_files>
\x7bworkdir\x7d
</uploaded_files>

I've uploaded a python code repository in the directory \x7bworkdir\x7d. Consider the following issue description:

<issue_description>
\x7bquestion\x7d
</issue_description>

Can you help me implement the necessary changes to the repository so that the requirements specified in the <issue_description> are met?
I've already taken care of all changes to any of the test files described in the <issue_description>. This means you DON'T have to modify the testing logic or any of the tests in any way!
The development Python environment is already set up for you, so you don't need to install other packages.
Your task is to make the minimal changes to non-test files in the \x7bworkdir\x7d directory to ensure the <issue_description> is satisfied.

Work in phases: read and restate the problem, explore the relevant code, write a script that reproduces the issue, implement the fix, then rerun the reproduction and the related tests.
"

/-- The settings of an agent. -/
structure AgentConfig where
  name : String := "agent"
  projectPath : String := "/testbed"
  installCommands : List String := []
  runCommand : String := ""
  promptTemplate : Option String := none
  installTimeoutSecs : Nat := 3600
  runTimeoutSecs : Nat := 3600
  env : Dict String := .empty

instance : Inhabited AgentConfig := ⟨{}⟩

namespace AgentConfig

/-- The slot of the launch command that the prompt goes into. -/
def promptSlot : String := "\x7bprompt\x7d"

/-- The slot of either template that the project path goes into. -/
def workdirSlot : String := "\x7bworkdir\x7d"

/-- The slot of the prompt template that the instruction goes into. -/
def questionSlot : String := "\x7bquestion\x7d"

/-- Whether an agent can be run with these settings. -/
def validate (config : AgentConfig) : Except AgentError Unit :=
  if Text.isAllBlank config.runCommand then .error (.config "run_command is required")
  else if ¬ Text.Template.occurs promptSlot config.runCommand then
    .error (.config "run_command must contain a \x7bprompt\x7d placeholder")
  else if config.runTimeoutSecs = 0 ∨ config.installTimeoutSecs = 0 then
    .error (.config "agent timeouts must be positive")
  else .ok ()

def runTimeout (config : AgentConfig) : Duration := .ofSecs config.runTimeoutSecs

def installTimeout (config : AgentConfig) : Duration := .ofSecs config.installTimeoutSecs

/-- What the agent is told. The instruction goes in last, so nothing in it is taken for a slot. -/
def prompt (config : AgentConfig) (instruction : String) : String :=
  Text.Template.fill questionSlot instruction
    (Text.Template.fill workdirSlot config.projectPath (config.promptTemplate.getD defaultPrompt))

/-- The command that launches the agent on a prompt. -/
def command (config : AgentConfig) (prompt : String) : String :=
  Text.Template.fill promptSlot (Shell.quote prompt)
    (Text.Template.fill workdirSlot (Shell.quote config.projectPath) config.runCommand)

end AgentConfig

end AgentTrial
