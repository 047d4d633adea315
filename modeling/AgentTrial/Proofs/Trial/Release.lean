import AgentTrial.Proofs.Routine.Answers
import AgentTrial.Proofs.Trial.Teardown

/-!
# Release

A trial knows its outcome before it releases its sandbox, and tells it afterwards.

* **Findings** — what a trial has found out by its release (`Trial.found`) is what it ends with,
  unless the stop crashes (`Trial.stopCrash?`): an error of the stop and the time it takes do not
  matter (`Trial.run_finding`).
* **Alike sandboxes** — sandboxes that are alike but for their stops lead to the same finding by
  then (`Trial.found_alike`), since the pipeline makes no stop.
-/

namespace AgentTrial

open Routine

namespace Ending

variable {ε α : Type}

/-- The crash that something ends in, if it does. -/
def crash? : Ending ε α → Option Crash
  | .crash p => some p
  | _ => none

/-- How something ends that ends with a value, unless there is a crash. -/
def orCrash (a : α) : Option Crash → Ending ε α
  | some p => .crash p
  | none => .value a

end Ending

variable {σ : Type}

/-! ## Findings -/

/-- The crash of the stop that is made when a guard is released, if one is made and crashes. -/
def Guard.crash? (backend : Backend σ) (keep : Bool) (c : Course σ) : Option Crash :=
  if keep then none else (backend.respond c.box c.now .stop).1.ending.crash?

/-- How long the stop takes that is made when a guard is released, if one is made. -/
def Guard.stopDelay (backend : Backend σ) (keep : Bool) (c : Course σ) : Nat :=
  if keep then 0 else (backend.respond c.box c.now .stop).1.delay

/-- Releasing a guard crashes where the stop does and ends well otherwise, and it takes as long as
the stop. -/
theorem Guard.releasing_perform (backend : Backend σ) (keep : Bool) (c : Course σ) :
    let r := (releasing keep).perform backend c
    r.1 = .orCrash () (crash? backend keep c) ∧ r.2.now = c.now + stopDelay backend keep c := by
  cases keep with
  | true => exact ⟨rfl, rfl⟩
  | false =>
      obtain ⟨next, eq, ends⟩ : ∃ next : _ → Routine Empty Unit,
          releasing false = .release (.call .stop next) ∧
            ∀ ending d, ((next ending).perform backend d).1 = .orCrash () ending.crash? ∧
              ((next ending).perform backend d).2.now = d.now :=
        ⟨_, rfl, fun ending d => by cases ending <;> exact ⟨rfl, rfl⟩⟩
      rw [eq]
      exact ends _ _

theorem Timeline.ofCourse_orCrash (taskName id : String) (outcome : Outcome) (crash : Option Crash)
    (c : Course σ) :
    (ofCourse taskName id (.orCrash outcome crash) c).finding =
      match crash with
      | some p => .error p
      | none => .ok ⟨taskName, some id, outcome⟩ := by
  cases crash <;> rfl

namespace Trial

variable (trial : Trial)

/-- After its pipeline a trial in a sandbox releases the guard: it ends with the outcome of the
pipeline unless that crashes, and it takes as much longer as the stop does. -/
theorem inside_perform (takesDirs : Bool) (taskName : String) (task : Task) (backend : Backend σ)
    (c : Course σ) :
    let last := (trial.pipeline takesDirs taskName task).perform backend c
    let r := (trial.inside takesDirs taskName task).perform backend c
    r.1 = .orCrash (outcomeOf last.1) (Guard.crash? backend trial.config.keepSandbox last.2) ∧
      r.2.now = last.2.now + Guard.stopDelay backend trial.config.keepSandbox last.2 := by
  intro last r
  -- logging the outcome leaves the sandbox and the time as they were
  let logged : Course σ :=
    { last.2 with log := last.2.log.push ⟨if last.1.isValue then .info else .error, .trial⟩ }
  have after : r = (Guard.releasing trial.config.keepSandbox >>= fun _ =>
      Pure.pure (outcomeOf last.1)).perform backend logged := by
    show (trial.inside takesDirs taskName task).perform backend c = _
    rw [inside, settle_bind, perform_follow]
    rfl
  obtain ⟨ends, takes⟩ : ((Guard.releasing trial.config.keepSandbox).perform backend logged).1 =
        .orCrash () (Guard.crash? backend trial.config.keepSandbox last.2) ∧
      ((Guard.releasing trial.config.keepSandbox).perform backend logged).2.now =
        last.2.now + Guard.stopDelay backend trial.config.keepSandbox last.2 :=
    Guard.releasing_perform backend _ logged
  rw [after, perform_bind, ends, ← takes]
  cases Guard.crash? backend trial.config.keepSandbox last.2 <;> exact ⟨rfl, rfl⟩

/-- Where the pipeline of a trial in a sandbox ends: how, and in which course. -/
def pipelineEnd (made : Made σ) (taskName : String) (task : Task) :
    Ending StageFailure Verdict × Course σ :=
  (trial.pipeline made.backend.takesDirs taskName task).perform made.backend (made.course 0)

variable (make : Maker σ) (dir : String)

/-- What a trial has found out by the release of its sandbox. -/
def found : Except Crash Finding :=
  match trial.begin make dir with
  | .early timeline => timeline.finding
  | .inSandbox made task =>
    .ok ⟨taskNameOf dir, some made.backend.id,
      outcomeOf (trial.pipelineEnd made (taskNameOf dir) task).1⟩

/-- The crash of the stop with which a trial releases its sandbox, if it makes one that crashes. -/
def stopCrash? : Option Crash :=
  match trial.begin make dir with
  | .early _ => none
  | .inSandbox made task =>
    Guard.crash? made.backend trial.config.keepSandbox
      (trial.pipelineEnd made (taskNameOf dir) task).2

theorem found_early {timeline : Timeline} (h : trial.begin make dir = .early timeline) :
    trial.found make dir = timeline.finding := by
  unfold found
  rw [h]

theorem found_inSandbox {made : Made σ} {task : Task}
    (h : trial.begin make dir = .inSandbox made task) :
    trial.found make dir = .ok ⟨taskNameOf dir, some made.backend.id,
      outcomeOf (trial.pipelineEnd made (taskNameOf dir) task).1⟩ := by
  unfold found
  rw [h]

theorem stopCrash?_early {timeline : Timeline} (h : trial.begin make dir = .early timeline) :
    trial.stopCrash? make dir = none := by
  unfold stopCrash?
  rw [h]

theorem stopCrash?_inSandbox {made : Made σ} {task : Task}
    (h : trial.begin make dir = .inSandbox made task) :
    trial.stopCrash? make dir = Guard.crash? made.backend trial.config.keepSandbox
      (trial.pipelineEnd made (taskNameOf dir) task).2 := by
  unfold stopCrash?
  rw [h]

theorem stopCrash?_of_error {c : Crash} (h : trial.found make dir = .error c) :
    trial.stopCrash? make dir = none := by
  cases begun : trial.begin make dir with
  | early timeline => exact trial.stopCrash?_early make dir begun
  | inSandbox made task =>
      rw [trial.found_inSandbox make dir begun] at h
      cases h

/-- **Findings.** A trial ends with what it has found out by the release of its sandbox, unless the
stop crashes. -/
theorem run_finding :
    (trial.run make dir).finding =
      match trial.stopCrash? make dir with
      | some p => .error p
      | none => trial.found make dir := by
  cases h : trial.begin make dir with
  | early timeline =>
      rw [trial.run_early make dir h, trial.stopCrash?_early make dir h,
        trial.found_early make dir h]
  | inSandbox made task =>
      have ends := (trial.inside_perform made.backend.takesDirs (taskNameOf dir) task made.backend
        (made.course 0)).1
      rw [trial.run_inSandbox make dir h, trial.stopCrash?_inSandbox make dir h,
        trial.found_inSandbox make dir h]
      dsimp only
      rw [ends]
      exact Timeline.ofCourse_orCrash _ _ _ _ _

/-- A trial that gets a sandbox takes as long as its pipeline and its stop. -/
theorem run_length {made : Made σ} {task : Task} (h : trial.begin make dir = .inSandbox made task) :
    (trial.run make dir).length = (trial.pipelineEnd made (taskNameOf dir) task).2.now +
      Guard.stopDelay made.backend trial.config.keepSandbox
        (trial.pipelineEnd made (taskNameOf dir) task).2 := by
  rw [trial.run_inSandbox make dir h]
  exact (trial.inside_perform made.backend.takesDirs (taskNameOf dir) task made.backend
    (made.course 0)).2

end Trial

/-! ## Alike sandboxes -/

/-- Sandboxes that are alike but for how they reply to a stop. -/
structure Made.Alike (made made' : Made σ) : Prop where
  id : made'.backend.id = made.backend.id
  takesDirs : made'.backend.takesDirs = made.backend.takesDirs
  box : made'.box = made.box
  respond : ∀ asked, asked ≠ .stop → ∀ box now,
    made'.backend.respond box now asked = made.backend.respond box now asked

/-- What two makers come to for a task: the same failure, or sandboxes that are alike. -/
inductive MadeAlike :
    Ending SandboxError (Made σ) → Ending SandboxError (Made σ) → Prop where
  | error (e : SandboxError) : MadeAlike (.error e) (.error e)
  | crash (c : Crash) : MadeAlike (.crash c) (.crash c)
  | value {made made' : Made σ} (alike : made.Alike made') : MadeAlike (.value made) (.value made')

/-- The sandbox with another way to reply to a stop. -/
def Made.stoppedBy (made : Made σ) (stop : σ → Nat → Reply Unit × σ) : Made σ where
  box := made.box
  backend := { made.backend with
    respond := fun box now asked =>
      match asked with
      | .stop => stop box now
      | asked => made.backend.respond box now asked }

theorem Made.stoppedBy_alike (made : Made σ) (stop stop' : σ → Nat → Reply Unit × σ) :
    (made.stoppedBy stop).Alike (made.stoppedBy stop') where
  id := rfl
  takesDirs := rfl
  box := rfl
  respond asked other _ _ := by
    cases asked with
    | stop => exact absurd rfl other
    | start | session | run | probe | uploadFile | uploadDir => rfl

namespace Trial

variable (trial : Trial) {make make' : Maker σ} {dir : String}

/-- A pipeline goes the same way in sandboxes that are alike, since it makes no stop. -/
theorem pipelineEnd_alike {made made' : Made σ} (alike : made.Alike made') (taskName : String)
    (task : Task) :
    trial.pipelineEnd made' taskName task = trial.pipelineEnd made taskName task := by
  have start : made'.course 0 = made.course 0 := by rw [Made.course, Made.course, alike.box]
  rw [pipelineEnd, pipelineEnd, alike.takesDirs, start]
  exact perform_congr alike.respond (trial.pipeline_permitted _ taskName task) _

/-- A trial begins the same way with makers that come to the like. -/
theorem begin_alike (h : MadeAlike (make (taskNameOf dir)) (make' (taskNameOf dir))) :
    (∃ early, trial.begin make dir = .early early ∧ trial.begin make' dir = .early early) ∨
      ∃ made made' task, trial.begin make dir = .inSandbox made task ∧
        trial.begin make' dir = .inSandbox made' task ∧ made.Alike made' := by
  unfold begin
  dsimp only
  cases Task.load trial.fs trial.config dir with
  | error e => exact .inl ⟨_, rfl, rfl⟩
  | ok task =>
      dsimp only
      generalize make (taskNameOf dir) = ending at h
      generalize make' (taskNameOf dir) = ending' at h
      cases h with
      | error e => exact .inl ⟨_, rfl, rfl⟩
      | crash c => exact .inl ⟨_, rfl, rfl⟩
      | value alike => exact .inr ⟨_, _, task, rfl, rfl, alike⟩

/-- **Alike sandboxes.** By the release a trial has found out the same. -/
theorem found_alike (h : MadeAlike (make (taskNameOf dir)) (make' (taskNameOf dir))) :
    trial.found make' dir = trial.found make dir := by
  obtain ⟨early, begun, begun'⟩ | ⟨made, made', task, begun, begun', alike⟩ := trial.begin_alike h
  · rw [trial.found_early make dir begun, trial.found_early make' dir begun']
  · rw [trial.found_inSandbox make dir begun, trial.found_inSandbox make' dir begun', alike.id,
      trial.pipelineEnd_alike alike]

end Trial

end AgentTrial
