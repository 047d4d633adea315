import AgentTrial.Json.Reader
import AgentTrial.Json.Typed
import AgentTrial.Result.Outcome

/-!
# Results as JSON

- `TaskResult.toJson` writes a result as one flat object, `TaskResult.ofReading` reads it back.
- `Verdict.toJson` and `Verdict.ofReading` do so for a verdict.
-/

namespace AgentTrial

open Json

/-- The words of test statuses. -/
def TestStatus.words : List (String × TestStatus) :=
  [(TestStatus.passed.name, .passed), (TestStatus.failed.name, .failed)]

/-- The words of stages. -/
def Stage.words : List (String × Stage) := Stage.all.map fun stage => (stage.name, stage)

/-- Tests with their statuses. -/
def testsToJson (tests : Dict TestStatus) : Value :=
  .object (tests.entries.map fun (name, status) => (name, .string status.name))

/-- The member of tests, where there are tests. -/
def testsMember : Option (Dict TestStatus) → List (String × Value)
  | some tests => [("tests", testsToJson tests)]
  | none => []

/-! ## Verdicts -/

def Verdict.toJson (v : Verdict) : Value :=
  .object (("resolved", .bool v.resolved) :: testsMember v.tests)

namespace Verdict

/-- The fields of a verdict that have been read. -/
structure Fields where
  resolved : Option Bool := none
  tests : Option (Option (Dict TestStatus)) := none

def takeTests : Reading → Except Fault (Option (Dict TestStatus)) :=
  Reading.optional (Reading.dict (Reading.variant TestStatus.words))

/-- Reads the members of a verdict; unknown ones are skipped. -/
def ofMembers (f : Fields) : Members → Except Fault Verdict
  | .done =>
    match f.resolved with
    | some resolved => .ok ⟨resolved, f.tests.getD none⟩
    | none => .error .unfit
  | .broken fault _ => .error fault
  | .stray _ => .error .malformed
  | .orphan key fault => do
    let name ← key.text
    if (name = "resolved" ∧ f.resolved.isSome) ∨ (name = "tests" ∧ f.tests.isSome) then
      throw .unfit
    else throw fault
  | .cons key value rest => do
    let name ← key.text
    if name = "resolved" then
      if f.resolved.isSome then throw .unfit
      let resolved ← value.asBool
      ofMembers { f with resolved := some resolved } rest
    else if name = "tests" then
      if f.tests.isSome then throw .unfit
      let tests ← takeTests value
      ofMembers { f with tests := some tests } rest
    else
      value.skip
      ofMembers f rest

/-- Reads a verdict that is written as a list of its fields. -/
def ofItems : Items → Except Fault Verdict
  | .done => .error .unfit
  | .broken fault _ => .error fault
  | .cons resolved rest => do
    let resolved ← resolved.asBool
    match rest with
    | .done => pure ⟨resolved, none⟩
    | .broken fault _ => throw fault
    | .cons tests rest =>
      let tests ← takeTests tests
      match rest with
      | .done => pure ⟨resolved, tests⟩
      | .broken fault false => throw fault
      | _ => throw .malformed

/-- Reads a verdict. -/
def ofReading : Reading → Except Fault Verdict
  | .object members => ofMembers {} members
  | .array items => ofItems items
  | r => r.mistyped

/-- The verdict that a JSON text writes. -/
def ofJsonText (text : String) : Except Fault Verdict :=
  (Document.ofText text).take ofReading

end Verdict

/-! ## Outcomes -/

/-- The members of an outcome: its status, and what goes with it. -/
def Outcome.members : Outcome → List (String × Value)
  | .success resolved tests =>
    ("status", .string "success") :: ("resolved", .bool resolved) :: testsMember tests
  | .failed stage error =>
    ("status", .string "failed") ::
      ((stage.map fun stage => ("stage", Value.string stage.name)).toList ++
        [("error", .string error)])

namespace Outcome

/-- Whether a status stands for success. A status may be given by its place. -/
def takeStatus : Value → Except Fault Bool
  | .string s => Reading.meaning [("success", true), ("failed", false)] s
  | .number (.whole n) => if n = 0 then .ok true else if n = 1 then .ok false else .error .unfit
  | _ => .error .unfit

/-- The outcome that some members write; those of the other status and unknown ones are skipped. -/
def ofMembers (members : List (String × Value)) : Except Fault Outcome := do
  if ← Value.required members "status" takeStatus then
    let resolved ← Value.required members "resolved" Value.asBool
    let tests ← Value.leftOut members "tests" (Value.dict (Value.variant TestStatus.words))
    pure (.success resolved tests)
  else
    let stage ← Value.leftOut members "stage" (Value.variant Stage.words)
    let error ← Value.required members "error" Value.asText
    pure (.failed stage error)

/-- The outcome that a JSON value writes. -/
def ofValue : Value → Except Fault Outcome
  | .object members => ofMembers members
  | _ => .error .unfit

end Outcome

/-! ## Results -/

namespace TaskResult

/-- The members of a result. -/
def members (r : TaskResult) : List (String × Value) :=
  [("task_name", .string r.taskName), ("sandbox_id", .ofOption .string r.sandboxId)] ++
    r.outcome.members ++
    [("started_at", .string r.startedAt.text), ("completed_at", .string r.completedAt.text),
      ("duration_secs", .real r.durationSecs)]

def toJson (r : TaskResult) : Value := .object r.members

/-- The fields of a result that have been read. `others` are the members that go into the
outcome. -/
structure Fields where
  taskName : Option String := none
  sandboxId : Option (Option String) := none
  startedAt : Option Instant := none
  completedAt : Option Instant := none
  durationSecs : Option Binary64 := none
  others : List (String × Value) := []

/-- Whether a field of its own has been read already. -/
def Fields.has (f : Fields) (name : String) : Bool :=
  (name == "task_name" && f.taskName.isSome) || (name == "sandbox_id" && f.sandboxId.isSome) ||
  (name == "started_at" && f.startedAt.isSome) ||
  (name == "completed_at" && f.completedAt.isSome) ||
  (name == "duration_secs" && f.durationSecs.isSome)

/-- An instant in a text. -/
def takeInstant (r : Reading) : Except Fault Instant := do
  match Instant.ofText? (← r.asText) with
  | some t => pure t
  | none => throw .unfit

/-- How deep brackets may be nested in a member that goes into the outcome. -/
def maxDepth : Nat := 126

/-- Reads one member. -/
def Fields.take (f : Fields) (name : String) (value : Reading) : Except Fault Fields := do
  if f.has name then throw .unfit
  else if name = "task_name" then return { f with taskName := some (← value.asText) }
  else if name = "sandbox_id" then
    return { f with sandboxId := some (← Reading.optional Reading.asText value) }
  else if name = "started_at" then return { f with startedAt := some (← takeInstant value) }
  else if name = "completed_at" then return { f with completedAt := some (← takeInstant value) }
  else if name = "duration_secs" then return { f with durationSecs := some (← value.asReal) }
  else return { f with others := f.others ++ [(name, ← value.value maxDepth)] }

/-- The result that some fields make. Only the sandbox may be left out. -/
def Fields.toResult (f : Fields) : Except Fault TaskResult := do
  match f.taskName, f.startedAt, f.completedAt, f.durationSecs with
  | some taskName, some startedAt, some completedAt, some durationSecs =>
    let outcome ← Outcome.ofMembers f.others
    pure ⟨taskName, f.sandboxId.getD none, outcome, startedAt, completedAt, durationSecs⟩
  | _, _, _, _ => throw .unfit

/-- Reads the members of a result. -/
def ofMembers (f : Fields) : Members → Except Fault TaskResult
  | .done => f.toResult
  | .broken fault _ => .error fault
  | .stray _ => .error .malformed
  | .orphan key fault => do
    if f.has (← key.text) then throw .unfit else throw fault
  | .cons key value rest => do
    let f ← f.take (← key.text) value
    ofMembers f rest

/-- Reads a result. -/
def ofReading : Reading → Except Fault TaskResult
  | .object members => ofMembers {} members
  | r => r.mistyped

/-- The result that a JSON text writes. -/
def ofJsonText (text : String) : Except Fault TaskResult :=
  (Document.ofText text).take ofReading

end TaskResult

end AgentTrial
