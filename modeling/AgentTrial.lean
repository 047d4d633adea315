import AgentTrial.Agent
import AgentTrial.Batch
import AgentTrial.CommandLine.Arguments
import AgentTrial.CommandLine.Program
import AgentTrial.CommandLine.Run
import AgentTrial.Config.Agent
import AgentTrial.Config.Harness
import AgentTrial.Config.Load
import AgentTrial.Dict
import AgentTrial.Duration
import AgentTrial.Error
import AgentTrial.Execution
import AgentTrial.FileSystem.Error
import AgentTrial.FileSystem.Lookup
import AgentTrial.FileSystem.Node
import AgentTrial.FileSystem.Write
import AgentTrial.Json.Reader
import AgentTrial.Json.Reading
import AgentTrial.Json.Typed
import AgentTrial.Json.Value
import AgentTrial.Log
import AgentTrial.Log.Filter
import AgentTrial.Main
import AgentTrial.Number.Binary64
import AgentTrial.Number.Decimal
import AgentTrial.Path
import AgentTrial.Provision
import AgentTrial.Provision.Errand
import AgentTrial.Provision.Packing
import AgentTrial.Result.Outcome
import AgentTrial.Result.Record
import AgentTrial.Result.Summary
import AgentTrial.Sandbox.Call
import AgentTrial.Sandbox.Container
import AgentTrial.Sandbox.Guard
import AgentTrial.Sandbox.Routine
import AgentTrial.Sandbox.Script
import AgentTrial.Sandbox.Step
import AgentTrial.Sandbox.Tool
import AgentTrial.Shell.Quote
import AgentTrial.Text.Blank
import AgentTrial.Text.Digit
import AgentTrial.Text.LetterCase
import AgentTrial.Text.Template
import AgentTrial.Text.Utf8
import AgentTrial.Time.Calendar
import AgentTrial.Time.Instant
import AgentTrial.Trial
import AgentTrial.Verdict.Block
import AgentTrial.Verdict.Report
import AgentTrial.Yaml.Cursor
import AgentTrial.Yaml.Decode
import AgentTrial.Yaml.Lexer
import AgentTrial.Yaml.Node
import AgentTrial.Yaml.Scalar
import AgentTrial.Yaml.Token
import AgentTrial.Proofs.Batch.Alone
import AgentTrial.Proofs.Batch.Bound
import AgentTrial.Proofs.Batch.Independence
import AgentTrial.Proofs.Batch.Invariant
import AgentTrial.Proofs.Batch.Plan
import AgentTrial.Proofs.Batch.Pool
import AgentTrial.Proofs.Batch.Progress
import AgentTrial.Proofs.Batch.Slots
import AgentTrial.Proofs.Batch.Teardown
import AgentTrial.Proofs.Routine.Answers
import AgentTrial.Proofs.Routine.Conversation
import AgentTrial.Proofs.Routine.Delay
import AgentTrial.Proofs.Routine.Perform
import AgentTrial.Proofs.Routine.Suspension
import AgentTrial.Proofs.Trial.Attribution
import AgentTrial.Proofs.Trial.Deeds
import AgentTrial.Proofs.Trial.Execution
import AgentTrial.Proofs.Trial.Milestones
import AgentTrial.Proofs.Trial.Stages
import AgentTrial.Proofs.Trial.Teardown
import AgentTrial.Proofs.Trial.Classification
import AgentTrial.Proofs.Text.Blank
import AgentTrial.Proofs.Verdict.Block
import AgentTrial.Proofs.Verdict.Marker
import AgentTrial.Proofs.Dict
import AgentTrial.Proofs.Verdict.Line
import AgentTrial.Proofs.Verdict.BareName
import AgentTrial.Proofs.Verdict.Tally
import AgentTrial.Proofs.Shell.Quote
import AgentTrial.Proofs.Path
import AgentTrial.Proofs.Shell.Layers
import AgentTrial.Proofs.Agent
import AgentTrial.Proofs.FileSystem.Tree
import AgentTrial.Proofs.FileSystem.Lookup
import AgentTrial.Proofs.Routine.Success
import AgentTrial.Proofs.Provision.Store
import AgentTrial.Proofs.Provision.Strategies
import AgentTrial.Proofs.Trial.Release
import AgentTrial.Proofs.Batch.Release
import AgentTrial.Proofs.Container.Turns
import AgentTrial.Proofs.Since
import AgentTrial.Proofs.Container.Flags
import AgentTrial.Proofs.Container.Names
import AgentTrial.Proofs.Container.Running
import AgentTrial.Proofs.Container.Removal
import AgentTrial.Proofs.Routine.Waits
import AgentTrial.Proofs.Trial.Abandonment
import AgentTrial.Proofs.Batch.Identifiers
import AgentTrial.Proofs.Trial.Deadlines
import AgentTrial.Proofs.Trial.Overflow
import AgentTrial.Proofs.Batch.Parallelism
import AgentTrial.Proofs.Container.Sessions
import AgentTrial.Proofs.Trial.Sessions
import AgentTrial.Proofs.Provision.Packing
import AgentTrial.Proofs.Provision.Errand
import AgentTrial.Proofs.Provision.Cleanup
import AgentTrial.Proofs.Result.Summary
import AgentTrial.Proofs.Result.Times
import AgentTrial.Proofs.Config.Task
import AgentTrial.Proofs.Json.Text
import AgentTrial.Proofs.Result.Record
import AgentTrial.Proofs.Execution.JobReport
import AgentTrial.Proofs.Text.Pieces
import AgentTrial.Proofs.FileSystem.Alike
import AgentTrial.Proofs.Batch.Discovery
import AgentTrial.Proofs.Trial.Delivery
import AgentTrial.Proofs.Config.Image
import AgentTrial.Proofs.Shell.Arguments
