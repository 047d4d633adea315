import AgentTrial.Trial

/-!
# Batches

Every task under a directory gets a trial of its own; at most so many trials go on at once, and a
slot is held until the sandbox of its trial is torn down.

- `discover` lists the task directories.
- `starts` gives each trial the first slot that is free, in order.
- `Batch.run` is the whole; `peak` and `live` count the sandboxes that are up.
-/

namespace AgentTrial

namespace Batch

/-- The directories right below a directory that hold a task file, by name. Links to directories do
not count. -/
def discover (fs : FileSystem) (config : HarnessConfig) (dir : String) :
    Except TrialError (List String) :=
  match fs.directory? dir with
  | none => .error (.tasksDirMissing dir)
  | some entries =>
    match fs.unlisted dir with
    | some e => .error (.io e)
    | none =>
      let isTask (entry : String × FileSystem.Node) : Bool :=
        entry.2.isDir && fs.isFile (Path.join (Path.join dir entry.1) config.taskFile)
      let names := (entries.toList.filter isTask).map (·.1)
      .ok ((names.mergeSort fun a b => a ≤ b).map (Path.join dir))

/-! ## Slots -/

/-- The start of each of some trials by their lengths, when `busy` are the instants at which the
slots in use become free and there are `slots` of them at most. -/
def starts (slots : Nat) (busy : List Nat) : List Nat → List Nat
  | [] => []
  | length :: rest =>
    if busy.length < slots then 0 :: starts slots (length :: busy) rest
    else
      let start := busy.min?.getD 0
      start :: starts slots ((start + length) :: busy.erase start) rest

/-- A trial with its place in the batch. -/
structure Placed where
  dir : String
  start : Nat
  timeline : Timeline

/-- The instant at which a trial of the batch ends. -/
def Placed.finish (p : Placed) : Nat := p.start + p.timeline.length

/-- Places trials one after the other. -/
def place (slots : Nat) (trials : List (String × Timeline)) : List Placed :=
  (trials.zip (starts slots [] (trials.map (·.2.length)))).map fun ((dir, timeline), start) =>
    ⟨dir, start, timeline⟩

/-- The instant at which the last trial ends. -/
def finish (placed : List Placed) : Nat := (placed.map (·.finish)).foldl max 0

/-- The report on a trial of the batch, by a calendar that shows an instant for every millisecond
since the batch began. A crash that escaped the trial is a failure without a stage and without a
sandbox. -/
def Placed.report (calendar : Nat → Instant) (p : Placed) : TaskResult :=
  match p.timeline.result (calendar p.start) with
  | .ok result => result
  | .error c => .failed (taskNameOf p.dir) none c.report (calendar p.finish)

/-- What is logged of a trial of the batch. -/
def Placed.log (calendar : Nat → Instant) (p : Placed) : List Log.Event :=
  match p.timeline.result (calendar p.start) with
  | .ok _ => p.timeline.log
  | .error _ => p.timeline.log ++ [⟨.error, .batch⟩]

/-- What is logged of a batch. -/
def log (calendar : Nat → Instant) (placed : List Placed) : List Log.Event :=
  ⟨.info, .batch⟩ :: (placed.flatMap (Placed.log calendar) ++ [⟨.info, .batch⟩])

/-! ## Runs -/

/-- The most slots that can be counted. -/
def maxSlots : Nat := Nat.pow 2 61 - 1

/-- The text of the crash when there are to be more. -/
def slotsText : String := s!"a semaphore may not have more than MAX_PERMITS permits ({maxSlots})"

/-- The task directories of a batch, or why it cannot begin. -/
def eligible (fs : FileSystem) (config : HarnessConfig) (dir : String) (slots : Nat) :
    Ending TrialError (List String) :=
  if slots = 0 then .error (.config "parallelism must be at least 1")
  else match discover fs config dir with
    | .error e => .error e
    | .ok [] => .error (.noTasks dir)
    | .ok dirs => if maxSlots < slots then .crash (.message slotsText) else .value dirs

variable {σ τ : Type}

/-- Runs every task under a directory, each in a sandbox of its own. -/
def run (trial : Trial) (make : Maker σ) (dir : String) (slots : Nat) :
    Ending TrialError (List Placed) :=
  match eligible trial.fs trial.config dir slots with
  | .value dirs => .value (place slots (dirs.map fun dir => (dir, trial.run make dir)))
  | .error e => .error e
  | .crash c => .crash c

/-- Trials in sandboxes that share a state, which passes from one to the next. -/
def runInTurn (trial : Trial) (make : τ → Maker σ) (after : σ → τ) (shared : τ) :
    List String → List (String × Timeline) × τ
  | [] => ([], shared)
  | dir :: rest =>
    let (timeline, box) := trial.runWith (make shared) dir
    let (timelines, shared) := runInTurn trial make after ((box.map after).getD shared) rest
    ((dir, timeline) :: timelines, shared)

/-! ## Sandboxes in time -/

/-- An entry at its place in the batch. -/
def shift (start : Nat) (e : Entry) : Entry :=
  { e with began := e.began + start, ended := e.ended + start }

/-- The calls of a trial in the time of the batch. -/
def Placed.entries (p : Placed) : List Entry := p.timeline.entries.map (shift p.start)

/-- The calls of a trial when the batch is dropped at an instant; none for one not begun. -/
def Placed.cutAt (p : Placed) (keep : Bool) (instant : Nat) : Option (List Entry) :=
  if p.timeline.sandboxId.isSome ∧ p.start ≤ instant then
    some ((p.timeline.cutAt keep (instant - p.start)).map (shift p.start))
  else none

/-- When a sandbox is up by its calls: from the end of its start to its first stop, if there is
one. -/
def upTime? (entries : List Entry) : Option (Nat × Option Nat) :=
  match entries.find? fun e => e.call == .start && e.answered with
  | none => none
  | some start => some (start.ended, (entries.find? Timeline.isStop).map (·.began))

/-- Whether a sandbox is up at an instant. -/
def isUpAt (instant : Nat) (entries : List Entry) : Bool :=
  match upTime? entries with
  | none => false
  | some (up, down) =>
    up ≤ instant && match down with
      | some down => instant < down
      | none => true

/-- The number of sandboxes that are up at an instant. -/
def upCount (sandboxes : List (List Entry)) (instant : Nat) : Nat :=
  (sandboxes.filter (isUpAt instant)).length

/-- The most sandboxes that are up at one instant, which is one at which a sandbox comes up. -/
def peak (sandboxes : List (List Entry)) : Nat :=
  ((sandboxes.filterMap upTime?).map fun (up, _) => upCount sandboxes up).foldl max 0

/-- The number of sandboxes that come up and are never stopped. -/
def live (sandboxes : List (List Entry)) : Nat :=
  ((sandboxes.filterMap upTime?).filter (·.2.isNone)).length

end Batch

end AgentTrial
