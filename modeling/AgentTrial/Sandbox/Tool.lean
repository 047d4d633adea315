import AgentTrial.FileSystem.Lookup
import AgentTrial.Sandbox.Script

/-!
# Container tools

Containers are managed by a command-line program: every request is one launch of it with a list of
arguments.

- `Tool` is such a program, `Tool.Ending` how a launch ends.
- `launchError?` says why a program cannot be launched at all.
- `ToolScript.tool` is a program that answers by rules and keeps the calls made.
-/

namespace AgentTrial

/-- How a launch of a container tool ends. -/
inductive Tool.Ending where
  /-- With an exit code and outputs. -/
  | finished (out : CommandOutput)
  /-- The program could not be launched. -/
  | unavailable (cause : FileError)
  /-- Not within any limit. -/
  | hanging
  deriving DecidableEq, Repr

/-- A container tool with states `κ`: what becomes of a launch with some arguments. -/
structure Tool (κ : Type) where
  launch : κ → List String → Tool.Ending × κ

namespace Tool

/-! ## Launching programs -/

/-- The longest argument that a program takes, in bytes. -/
def maxArgument : Nat := 131071

/-- Why the file that a program's name leads to cannot be launched, when `installed` are the programs
that a bare name finds. No file of a file tree is executable. -/
def programError? (fs : FileSystem) (installed : List String) (program : String) :
    Option FileError :=
  if program.toList.contains '/' then
    match fs.node? program with
    | .ok _ => some .permissionDenied
    | .error e => some e
  else if program ∈ installed then none
  else if program = "." ∨ program = ".." then some .permissionDenied
  else if FileSystem.maxName < program.utf8ByteSize then some .nameTooLong
  else some .noEntry

/-- Why a program cannot be launched with some arguments. -/
def launchError? (fs : FileSystem) (installed : List String) (program : String)
    (args : List String) : Option FileError :=
  if (program :: args).any (·.toList.contains '\x00') then some .nulInArgument
  else (programError? fs installed program).or
    (if args.any (maxArgument < ·.utf8ByteSize) then some .argumentsTooLong else none)

/-- A tool under the name of a program: a launch that the system refuses never reaches it. -/
def named {κ : Type} (tool : Tool κ) (fs : FileSystem) (installed : List String)
    (program : String) : Tool κ where
  launch state args :=
    match launchError? fs installed program args with
    | some cause => (.unavailable cause, state)
    | none => tool.launch state args

end Tool

/-! ## Scripted tools -/

namespace ToolScript

/-- How a launch ends that a rule fits. -/
structure Rule where
  /-- A text that the arguments, joined by blanks, have in them. -/
  fragment : String := ""
  /-- The uses left; none for no limit. -/
  uses : Option Nat := none
  ending : Tool.Ending := .finished {}

/-- Whether a rule is for some arguments. -/
def Rule.fits (args : List String) (rule : Rule) : Bool :=
  rule.uses != some 0 &&
    Script.occursIn rule.fragment.toList (" ".intercalate args).toList

/-- The rule with one use less. -/
def Rule.used (rule : Rule) : Rule := { rule with uses := rule.uses.map (· - 1) }

/-- The rules with the uses they have left, and the calls that came to an end. -/
structure State where
  rules : List Rule
  calls : Array (List String) := #[]

/-- The tool that answers by rules. A launch that no rule fits succeeds without output. -/
def tool : Tool State where
  launch state args :=
    let (ending, rules) := match Script.take? (Rule.fits args) Rule.used state.rules with
      | some (rule, rules) => (rule.ending, rules)
      | none => (.finished {}, state.rules)
    match ending with
    | .hanging => (.hanging, { state with rules })
    | ending => (ending, ⟨rules, state.calls.push args⟩)

end ToolScript

end AgentTrial
