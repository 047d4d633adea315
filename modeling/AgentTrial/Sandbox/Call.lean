import AgentTrial.Error
import AgentTrial.Log

/-!
# Calls on a sandbox

A sandbox is the place apart in which a trial happens. All that the harness does with it is to call
it and to wait for the answer.

- `Call` lists what can be asked, `Call.Answer` what each question is answered with.
- `Reply` is how a call ends and how long it takes.
- `Backend` is a sandbox: it answers calls by what it has been asked so far.
-/

namespace AgentTrial

/-- How a command is run. -/
inductive RunMode where
  /-- Attached, with its two outputs apart. -/
  | normal
  /-- Detached from the session, with its errors among its output. -/
  | nohup
  deriving DecidableEq, Repr

/-- What a command leaves behind. -/
structure CommandOutput where
  exitCode : Int := 0
  output : String := ""
  stderr : String := ""
  deriving DecidableEq, Repr, Inhabited

def CommandOutput.isSuccess (out : CommandOutput) : Bool := out.exitCode == 0

/-- What is uploaded as a file: one that lies here, or an archive packed for the purpose, with the
path and content of each of its entries. -/
inductive Upload where
  | file (path : String)
  | archive (entries : List (String × List UInt8))
  deriving DecidableEq, Repr

/-- What stands for the path of an archive, which lies in a temporary place. -/
def Upload.archivePath : String := "<archive>"

/-- The local path of what is uploaded. -/
def Upload.path : Upload → String
  | .file path => path
  | .archive _ => archivePath

/-- A call on a sandbox. -/
inductive Call where
  | start
  | stop
  /-- Creates a named session whose environment applies to later commands in it. -/
  | session (name : String) (env : List (String × String))
  /-- Runs a command to its end, within a limit that the sandbox keeps. -/
  | run (command : String) (session : Option String) (mode : RunMode) (limit : Duration)
  /-- Runs a short command for its exit code alone. -/
  | probe (command : String) (session : String)
  | uploadFile (upload : Upload) (remote : String)
  | uploadDir (dir : String) (remote : String)
  deriving DecidableEq, Repr

/-- What a call is answered with: an exit code for a probe or a directory, acceptance for a file. -/
abbrev Call.Answer : Call → Type
  | .run .. => CommandOutput
  | .probe .. => Int
  | .uploadFile .. => Bool
  | .uploadDir .. => Int
  | _ => Unit

/-- How something ends: with a value, with an error that the caller deals with, or in a crash that
unwinds the caller too. -/
inductive Ending (ε α : Type) where
  | value (a : α)
  | error (e : ε)
  | crash (c : Crash)
  deriving DecidableEq, Repr

/-- How a call ends, how many milliseconds it takes, and what is logged meanwhile. -/
structure Reply (α : Type) where
  ending : Ending SandboxError α
  delay : Nat := 0
  log : List Log.Event := []

/-- A sandbox with states `σ`. It answers a call by its state and by the time since the trial
began. -/
structure Backend (σ : Type) where
  id : String
  /-- Whether it takes whole directories. -/
  takesDirs : Bool
  respond : σ → Nat → (call : Call) → Reply call.Answer × σ

end AgentTrial
