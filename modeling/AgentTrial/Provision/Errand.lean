import AgentTrial.Provision

/-!
# Provisioning and the disk

Provisioning as it uses the local disk too: an archive is packed in a temporary file, which is
removed when provisioning ends, however it ends.

- `Errand` is what is done with a sandbox and the disk: routines, packing, and the removal of what
  was packed.
- `Errand.perform` does it from beginning to end, `Errand.Dropped` says what is left on the disk when
  it is dropped midway.
- `errand` is the provisioning.
-/

namespace AgentTrial.Provision

open FileSystem (Entries)

/-- What is done with a sandbox and the local disk. -/
inductive Errand where
  /-- Nothing more. -/
  | ended (ending : Ending TrialError Unit)
  /-- Something is done with the sandbox. -/
  | part (routine : Routine TrialError Unit) (next : Ending TrialError Unit → Errand)
  /-- A directory is packed by a task of its own, whose end is waited for. -/
  | pack (dir : String) (entries : Entries) (next : Ending TrialError Archive → Errand)
  /-- The file that was packed last is removed. -/
  | discard (next : Errand)

namespace Errand

/-- Goes on after an errand that ends with a value. -/
def andThen : Errand → Errand → Errand
  | .ended (.value ()), last => last
  | .ended ending, _ => .ended ending
  | .part routine next, last => .part routine fun ending => (next ending).andThen last
  | .pack dir entries next, last => .pack dir entries fun packed => (next packed).andThen last
  | .discard next, last => .discard (next.andThen last)

/-- What is done with the sandbox. -/
def routine (scratch : Scratch) : Errand → Routine TrialError Unit
  | .ended ending => .ended ending
  | .part r next => r.follow fun ending => (next ending).routine scratch
  | .pack dir entries next => (next (scratch.told (packing scratch dir entries))).routine scratch
  | .discard next => next.routine scratch

variable {σ : Type}

/-- Does an errand, with so many temporary files on the disk. -/
def perform (backend : Backend σ) (scratch : Scratch) :
    Errand → Course σ → Nat → (Ending TrialError Unit × Course σ) × Nat
  | .ended ending, c, files => ((ending, c), files)
  | .part r next, c, files =>
    let (ending, d) := r.perform backend c
    (next ending).perform backend scratch d files
  | .pack dir entries next, c, files =>
    (next (scratch.told (packing scratch dir entries))).perform backend scratch c
      (packingFiles scratch dir entries files)
  | .discard next, c, files => next.perform backend scratch c (files - 1)

/-- What an errand that is dropped midway leaves on the disk. Whoever is dropped removes the files it
holds. -/
inductive Dropped (backend : Backend σ) (scratch : Scratch) :
    Errand → Course σ → (files held left : Nat) → Prop where
  /-- It is dropped while it does something with the sandbox, … -/
  | amid {r next c files held} :
      Dropped backend scratch (.part r next) c files held (files - held)
  /-- … or later. -/
  | past {r next c files held left}
      (later : Dropped backend scratch (next (r.perform backend c).1) (r.perform backend c).2 files
        held left) :
      Dropped backend scratch (.part r next) c files held left
  /-- It is dropped while it waits for the task that packs. The task goes on to its end, and what it
  hands over is handed to nobody. -/
  | packing {dir entries next c files held} :
      Dropped backend scratch (.pack dir entries next) c files held
        (packingFiles scratch dir entries files -
          (if (packing scratch dir entries).isValue then 1 else 0) - held)
  /-- It is dropped later, and holds what has been handed over. -/
  | packed {dir entries next c files held left}
      (later : Dropped backend scratch (next (scratch.told (packing scratch dir entries))) c
        (packingFiles scratch dir entries files)
        (held + if (packing scratch dir entries).isValue then 1 else 0) left) :
      Dropped backend scratch (.pack dir entries next) c files held left
  | discarded {next c files held left}
      (later : Dropped backend scratch next c (files - 1) (held - 1) left) :
      Dropped backend scratch (.discard next) c files held left

end Errand

/-! ## Provisioning -/

/-- Brings a test directory in as an archive. The archive is removed when it has been sent, however
that ended. -/
def archiving (session testDir : String) (entries : Entries) (remoteDir script : String) : Errand :=
  .part (openRemote session remoteDir script) fun
    | .value () => .pack testDir entries fun
      | .value packed => .part (sendArchive session remoteDir packed) fun ending =>
        .discard (.ended ending)
      | .error e => .ended (.error e)
      | .crash p => .ended (.crash p)
    | ending => .ended ending

/-- Brings a test directory and a scoring script into the remote directory of a sandbox that may or
may not take whole directories. -/
def errand (takesDirs : Bool) (fs : FileSystem) (strategy : UploadStrategy)
    (session testDir remoteDir script : String) : Errand :=
  match fs.directory? testDir with
  | none => .ended (.error (.provision s!"test directory not found: {testDir}"))
  | some entries =>
    if fs.isFile script then
      let logged := Routine.logIf (effective strategy takesDirs ≠ strategy) .info .provisioning
      let uploading : Errand := match effective strategy takesDirs with
        | .directory => .part (asDirectory testDir remoteDir script) .ended
        | .archive => archiving session testDir entries remoteDir script
      (Errand.part logged .ended).andThen
        (uploading.andThen (.part (Routine.log .info .provisioning) .ended))
    else .ended (.error (.provision s!"scoring script not found: {script}"))

end AgentTrial.Provision
