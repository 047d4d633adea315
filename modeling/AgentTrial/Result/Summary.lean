import AgentTrial.Result.Record

/-!
# Summaries

The results of a batch in numbers: how many tasks there are, how many are resolved, unresolved or
failed, and what failed.
-/

namespace AgentTrial

/-- A failed task as a summary lists it. -/
structure Failure where
  taskName : String
  error : String
  deriving DecidableEq, Repr

/-- The summary of a batch. -/
structure Summary where
  total : Nat
  resolved : Nat
  unresolved : Nat
  failed : Nat
  resolveRate : Binary64
  failures : List Failure
  results : List TaskResult

namespace Summary

/-- The failure of a result, if it failed. -/
def failure? (r : TaskResult) : Option Failure :=
  r.outcome.error?.map fun error => ⟨r.taskName, error⟩

/-- The share of resolved tasks; zero where there are none. -/
def rate (resolved total : Nat) : Binary64 :=
  if total = 0 then .zero false else .ofRatio resolved total

/-- The summary of some results. -/
def ofResults (results : List TaskResult) : Summary :=
  let total := results.length
  let resolved := (results.filter (·.outcome.isResolved)).length
  let failures := results.filterMap failure?
  { total := total
    resolved := resolved
    unresolved := total - resolved - failures.length
    failed := failures.length
    resolveRate := rate resolved total
    failures := failures
    results := results }

def toJson (s : Summary) : Json.Value :=
  .object
    [("total", .nat s.total), ("resolved", .nat s.resolved), ("unresolved", .nat s.unresolved),
      ("failed", .nat s.failed), ("resolve_rate", .real s.resolveRate),
      ("failures", .array (s.failures.map fun f =>
        .object [("task_name", .string f.taskName), ("error", .string f.error)])),
      ("results", .array (s.results.map (·.toJson)))]

/-! ## For people to read -/

/-- A share in percent, with one digit after the point. -/
def percent (share : Binary64) : String :=
  ((share.mul? (.ofNat 100)).getD share).fixed 1 ++ "%"

/-- The lines on one result: its name, how it ended and how long it took, and its error. -/
def linesOf (r : TaskResult) : List String :=
  s!"  {r.taskName} [{r.outcome.label}] {r.durationSecs.fixed 1}s" ::
    (r.outcome.error?.map fun error => s!"    error: {error}").toList

/-- The lines of a summary. -/
def lines (s : Summary) : List String :=
  ["", "=== SWE Evaluation Results ===", s!"Total tasks:    {s.total}",
    s!"Resolved:       {s.resolved}", s!"Unresolved:     {s.unresolved}",
    s!"Failed:         {s.failed}", s!"Resolve rate:   {percent s.resolveRate}", ""] ++
    s.results.flatMap linesOf

/-- The text of a summary. -/
def text (s : Summary) : String := String.join (s.lines.map (· ++ "\n"))

end Summary

end AgentTrial
