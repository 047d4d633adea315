import AgentTrial.Config.Harness
import AgentTrial.Dict
import AgentTrial.Text.Blank
import AgentTrial.Verdict.Block

/-!
# Verdicts

What a scoring run says about a task: whether it is resolved and, for a report with one line per
test, how each test ended. Any output has a verdict; one without a usable block is unresolved.

- `reportOf?` reads one line of a report.
- `Verdict.ofOutput` reads the output of a scoring script.
-/

namespace AgentTrial

/-- How a test ended. -/
inductive TestStatus where
  | passed
  | failed
  deriving DecidableEq, Repr

namespace TestStatus

def name : TestStatus → String
  | .passed => "passed"
  | .failed => "failed"

/-- The status that a word of a report names. -/
def ofWord? (word : List Char) : Option TestStatus :=
  if word = "PASSED".toList then some .passed
  else if word = "FAILED".toList then some .failed
  else none

end TestStatus

/-- The outcome of a scoring run. `tests` is there for a report with one line per test. -/
structure Verdict where
  resolved : Bool
  tests : Option (Dict TestStatus)

namespace Verdict

def unresolved : Verdict := ⟨false, none⟩

/-- A name and a status as a report, when the name is more than blanks and the word is a status. -/
def reportFrom? (name word : List Char) : Option (String × TestStatus) :=
  match TestStatus.ofWord? word with
  | some status =>
    if Text.trimChars name = [] then none
    else some (String.ofList (Text.trimChars name), status)
  | none => none

/-- A text cut at its first blank. -/
def cutAtBlank? (line : List Char) : Option (List Char × List Char) :=
  match line.dropWhile (!Text.isBlank ·) with
  | _ :: rest => some (line.takeWhile (!Text.isBlank ·), rest)
  | [] => none

/-- A text cut at its last colon. -/
def cutAtLastColon? (line : List Char) : Option (List Char × List Char) :=
  match line.reverse.dropWhile (· != ':') with
  | _ :: before => some (before.reverse, (line.reverse.takeWhile (· != ':')).reverse)
  | [] => none

/-- A report of the shape `STATUS name`. -/
def statusFirst? (line : List Char) : Option (String × TestStatus) :=
  match cutAtBlank? line with
  | some (word, name) => reportFrom? name word
  | none => none

/-- A report of the shape `name: STATUS`. -/
def statusLast? (line : List Char) : Option (String × TestStatus) :=
  match cutAtLastColon? line with
  | some (name, word) => reportFrom? name (Text.trimChars word)
  | none => none

/-- The report of a line, in either shape. -/
def reportOf? (line : List Char) : Option (String × TestStatus) :=
  match statusFirst? (Text.trimChars line) with
  | some report => some report
  | none => statusLast? (Text.trimChars line)

/-- The lines of a block that hold more than blanks. -/
def filledLines (block : List Char) : List (List Char) :=
  (Text.lines block).filter fun line => !line.all Text.isBlank

/-- The reports of a block in order. -/
def reports (block : List Char) : List (String × TestStatus) :=
  (filledLines block).filterMap reportOf?

/-- One report more. A test fails for good with its first failed report. -/
def addReport (tests : Dict TestStatus) (report : String × TestStatus) : Dict TestStatus :=
  tests.alter report.1 fun
    | some .failed => .failed
    | _ => report.2

/-- The tests of a block, each with its status. -/
def testsOf (block : List Char) : Dict TestStatus :=
  (reports block).foldl addReport .empty

/-- Whether tests add up to a resolved task. -/
def isResolved (policy : EmptyVerdict) (tests : Dict TestStatus) : Bool :=
  if tests.isEmpty then policy == .resolved else tests.values.all (· == .passed)

/-- The verdict of a block. -/
def ofBlock (settings : VerdictSettings) (block : List Char) : Verdict :=
  match settings.format with
  | .marker => ⟨block == "PASSED".toList, none⟩
  | .structured =>
    let tests := testsOf block
    ⟨isResolved settings.emptyVerdict tests, some tests⟩

/-- The verdict of an output, and why there is no usable block when there is none. -/
def read (settings : VerdictSettings) (output : String) : Verdict × Option TrialError :=
  match onlyBlock settings.startMarker settings.endMarker output with
  | .ok block => (ofBlock settings block, none)
  | .error e => (unresolved, some e)

/-- The verdict of an output. -/
def ofOutput (settings : VerdictSettings) (output : String) : Verdict :=
  (read settings output).1

/-- Whether a report block has a line that says nothing. -/
def skipsLine (settings : VerdictSettings) (output : String) : Bool :=
  match settings.format, onlyBlock settings.startMarker settings.endMarker output with
  | .structured, .ok block => (filledLines block).any fun line => (reportOf? line).isNone
  | _, _ => false

end Verdict

end AgentTrial
