import AgentTrial.CommandLine.Program
import AgentTrial.Json.Reader

/-!
# Entry point

The program away from any machine: the files that it sees are read from standard input, as one JSON
object of paths and texts, and there is no container tool. What it would write stays unwritten.
-/

namespace AgentTrial.Entry

/-- The working directory of the files that are read. -/
def workingDir : List String := ["work"]

/-- The files that a JSON object of paths and texts describes. -/
def filesOf (document : String) : FileSystem :=
  let members := match Json.Value.ofText? document with
    | some (.object members) => members
    | _ => []
  let root := (FileSystem.Node.dir .nil).put workingDir (.dir .nil)
  { workingDir := workingDir
    root := members.foldl (fun root (path, content) =>
      match content with
      | .string text => root.put (workingDir ++ Path.steps path) (.ofText text)
      | _ => root) root }

/-- A machine with some files and no container tool. -/
def machineOf (fs : FileSystem) : CommandLine.Machine Unit where
  fs := fs
  tool := ⟨fun state _ => (.unavailable .noEntry, state)⟩
  installed := []
  suffix := "00000000"
  clock := ⟨0⟩
  calendar := fun _ => default

/-- The line of the log on an event. -/
def logLine (e : Log.Event) : String := s!"{e.level.name} {e.source.target}"

end AgentTrial.Entry

open AgentTrial

def main (words : List String) : IO UInt32 := do
  let env : CommandLine.Environment :=
    { logFilter := ← IO.getEnv "RUST_LOG", config := ← IO.getEnv "SWE_EVAL_CONFIG" }
  let document ← match CommandLine.Arguments.ofWords env.config words with
    | .ok _ => (← IO.getStdin).getLine
    | .error _ => pure ""
  let exit := CommandLine.execute (Entry.machineOf (Entry.filesOf document)) () env words
  for e in exit.shown do
    IO.println (Entry.logLine e)
  IO.print exit.stdout
  IO.eprint exit.stderr
  return exit.code.toUInt32
