import AgentTrial.Proofs.Batch.Independence
import AgentTrial.Proofs.Trial.Release

/-!
# Reports and stops

What a stop can do to the report on a task.

* **Overtaking** — a report tells what the trial has found out by its release, unless a crash
  overtakes it: that of the stop, or that of a calendar which ends first (`reportOn_finding`).
* **Two runs** — so two reports on a task whose sandboxes are alike but for their stops agree
  exactly when the crashes that overtake them read the same (`reports_agree_iff`).
-/

namespace AgentTrial

/-! ## Findings -/

theorem Crash.report_inj {c c' : Crash} : c.report = c'.report ↔ c.text = c'.text := by
  have told (c : Crash) : c.report = "task runner panicked: " ++ c.text := rfl
  rw [told, told, String.append_right_inj]

theorem TaskResult.sandboxId_eq {r : TaskResult} {f : Finding} (h : r.finding = f) :
    r.sandboxId = f.sandboxId := by
  rw [← h, finding]

theorem TaskResult.outcome_eq {r : TaskResult} {f : Finding} (h : r.finding = f) :
    r.outcome = f.outcome := by
  rw [← h, finding]

namespace Finding

/-- What is reported of a trial that a crash escapes. -/
def crashed (dir : String) (c : Crash) : Finding := ⟨taskNameOf dir, none, .ofCrash c⟩

/-- What is reported of a trial by what it has found out and by the crash that overtakes it, if one
does. -/
def reported (dir : String) : Except Crash Finding → Option Crash → Finding
  | _, some c => crashed dir c
  | .error c, none => crashed dir c
  | .ok f, none => f

theorem crashed_inj {dir : String} {c c' : Crash} :
    crashed dir c = crashed dir c' ↔ c.text = c'.text := by
  rw [← Crash.report_inj]
  simp [crashed, Outcome.ofCrash]

/-- What was found out and is no crash is told from all crashes, and these by their texts. -/
theorem reported_inj {dir : String} {f : Finding} (h : ∀ c, f ≠ crashed dir c)
    {lost lost' : Option Crash} :
    reported dir (.ok f) lost = reported dir (.ok f) lost' ↔
      lost.map Crash.text = lost'.map Crash.text := by
  cases lost with
  | none =>
      cases lost' with
      | none => exact iff_of_true rfl rfl
      | some c => exact iff_of_false (h c) (by simp)
  | some c =>
      cases lost' with
      | none => exact iff_of_false (Ne.symm (h c)) (by simp)
      | some c' => exact crashed_inj.trans (by simp)

end Finding

namespace Trial

variable {σ : Type} (trial : Trial) {make : Maker σ} {dir : String}

theorem begin_early_ok {timeline : Timeline} {f : Finding}
    (h : trial.begin make dir = .early timeline) (ok : timeline.finding = .ok f) :
    ∃ stage error, f.outcome = .failed (some stage) error := by
  unfold begin at h
  dsimp only at h
  split at h
  · cases h
    cases ok
    exact ⟨_, _, rfl⟩
  · split at h
    · cases h
      cases ok
    · cases h
      cases ok
      exact ⟨_, _, rfl⟩
    · cases h

/-- What a trial has found out is not what is reported of a crash that escapes it, which has neither
a sandbox nor a stage. -/
theorem found_ne_crashed {f : Finding} (h : trial.found make dir = .ok f) (c : Crash) :
    f ≠ .crashed dir c := by
  cases begun : trial.begin make dir with
  | early timeline =>
      rw [trial.found_early make dir begun] at h
      obtain ⟨stage, error, failed⟩ := trial.begin_early_ok begun h
      rintro rfl
      simp [Finding.crashed, Outcome.ofCrash] at failed
  | inSandbox made task =>
      rw [trial.found_inSandbox make dir begun] at h
      cases h
      simp [Finding.crashed]

end Trial

namespace Batch

variable {σ : Type}

/-! ## Overtaking -/

section

variable (trial : Trial) (make : Maker σ) (calendar : Nat → Instant) (dir : String) (start : Nat)

/-- The crash that overtakes what a trial has found out: that of its stop, or else that of the
calendar. -/
def overtaking? : Option Crash :=
  match trial.found make dir with
  | .error _ => none
  | .ok _ => (trial.stopCrash? make dir).or (calendarCrash? calendar start (trial.run make dir).length)

variable {trial make calendar dir start}

theorem overtaking?_of_error {c : Crash} (h : trial.found make dir = .error c) :
    overtaking? trial make calendar dir start = none := by
  unfold overtaking?
  rw [h]

theorem overtaking?_of_ok {f : Finding} (h : trial.found make dir = .ok f) :
    overtaking? trial make calendar dir start =
      (trial.stopCrash? make dir).or
        (calendarCrash? calendar start (trial.run make dir).length) := by
  unfold overtaking?
  rw [h]

variable (trial make calendar dir start)

/-- **Overtaking.** A report tells what the trial has found out by its release, unless a crash
overtakes it. -/
theorem reportOn_finding :
    (reportOn trial make calendar dir start).finding =
      .reported dir (trial.found make dir) (overtaking? trial make calendar dir start) := by
  have ends := trial.run_finding make dir
  rw [reportOn_told]
  unfold Timeline.result overtaking? calendarCrash?
  cases known : trial.found make dir with
  | error c =>
      -- a maker that crashes leaves no sandbox to stop
      rw [known, trial.stopCrash?_of_error make dir known] at ends
      rw [ends]
      rfl
  | ok f =>
      rw [known] at ends
      cases stopped : trial.stopCrash? make dir with
      | some c =>
          rw [stopped] at ends
          rw [ends]
          rfl
      | none =>
          rw [stopped] at ends
          rw [ends]
          simp only [TaskResult.new, Option.none_or]
          cases (calendar start).add (.ofMillis (trial.run make dir).length) <;> rfl

end

/-! ## Two runs -/

section

variable {trial : Trial} {make make' : Maker σ} {dir : String}

/-- Two reports on a task whose sandboxes are alike but for their stops. -/
theorem reportOn_agree_iff (alike : MadeAlike (make (taskNameOf dir)) (make' (taskNameOf dir)))
    (calendar calendar' : Nat → Instant) (start start' : Nat) :
    (reportOn trial make calendar dir start).finding =
        (reportOn trial make' calendar' dir start').finding ↔
      (overtaking? trial make calendar dir start).map Crash.text =
        (overtaking? trial make' calendar' dir start').map Crash.text := by
  rw [reportOn_finding, reportOn_finding, trial.found_alike alike]
  cases known : trial.found make dir with
  | ok f => exact Finding.reported_inj (trial.found_ne_crashed known)
  | error c =>
      rw [overtaking?_of_error known, overtaking?_of_error ((trial.found_alike alike).trans known)]
      exact iff_of_true rfl rfl

end

/-- **Two runs.** Of a batch with any number of slots that is accepted there are reports. In two runs
of it, each by its plan or in any other order and by any calendar, a task whose sandboxes are alike but
for their stops has a report in each, whatever the sandboxes of the other tasks do:

* by the release both trials have found out the same;
* either report tells that, unless a crash overtakes it: that of the stop, or that of a calendar
  which ends before the trial; it is then a failure by that crash, without a stage and a sandbox;
* so the reports agree in sandbox and outcome exactly when neither is overtaken, or both are by
  crashes that read the same. -/
theorem reports_agree_iff (trial : Trial) (make make' : Maker σ) {root : String}
    {slots slots' : Nat} {dirs : List String}
    (accepted : eligible trial.fs trial.config root slots = .value dirs)
    (accepted' : eligible trial.fs trial.config root slots' = .value dirs)
    (calendar calendar' : Nat → Instant) :
    (∃ reports, Reported trial make root slots calendar reports) ∧
    ∀ reports reports', Reported trial make root slots calendar reports →
      Reported trial make' root slots' calendar' reports' →
      ∀ (i : Nat) dir, dirs[i]? = some dir →
        MadeAlike (make (taskNameOf dir)) (make' (taskNameOf dir)) →
        ∃ start start' r r', reports[i]? = some r ∧ reports'[i]? = some r' ∧
          let lost := overtaking? trial make calendar dir start
          let lost' := overtaking? trial make' calendar' dir start'
          trial.found make' dir = trial.found make dir ∧
          r.finding = .reported dir (trial.found make dir) lost ∧
          r'.finding = .reported dir (trial.found make dir) lost' ∧
          (r.finding = r'.finding ↔ lost.map Crash.text = lost'.map Crash.text) := by
  refine ⟨⟨_, .plan (run_place trial make accepted)⟩, ?_⟩
  intro reports reports' told told' i dir here alike
  obtain ⟨start, place⟩ := told.getElem? accepted here
  obtain ⟨start', place'⟩ := told'.getElem? accepted' here
  refine ⟨start, start', _, _, place, place', trial.found_alike alike, reportOn_finding .., ?_,
    reportOn_agree_iff alike calendar calendar' start start'⟩
  rw [reportOn_finding, trial.found_alike alike]

/-! ## One task with passing tests -/

/-- A trial of one task, which has tests. -/
def single : Trial where
  config := {}
  agent := {}
  executor := .hourly
  fs := {
    root := .dir (.cons "t" (.dir (.cons "a" (.dir
      (.cons "task.yaml" (.ofText "instruction: mend it")
        (.cons "run-tests.sh" (.ofText "") (.cons "tests" (.dir .nil) .nil)))) .nil)) .nil)
    workingDir := [] }

/-- The task. -/
def singleTask : Task := ⟨"mend it", "t/a/tests", "t/a/run-tests.sh"⟩

/-- A sandbox in which the tests pass and which replies to a stop in one way. -/
def passingBox (stop : Reply Unit) : Made (List Script.Rule) :=
  Made.stoppedBy
    ⟨Script.backend "box" true,
      [{ on := .run, fragment := "nohup sh", output := "[1] 42" }, { on := .probe, exitCode := 1 },
        { on := .run, fragment := "cat ",
          output := "SWEBench results starts here\nPASSED\nSWEBench results ends here" }]⟩
    fun box _ => (stop, box)

/-- Makes such sandboxes. -/
def passing (stop : Reply Unit) : Maker (List Script.Rule) := fun _ => .value (passingBox stop)

theorem passing_alike (stop stop' : Reply Unit) (name : String) :
    MadeAlike (passing stop name) (passing stop' name) :=
  .value (Made.stoppedBy_alike _ _ _)

theorem single_eligible : eligible single.fs single.config "t" 1 = .value ["t/a"] := by
  have found : discover single.fs single.config "t" = .ok ["t/a"] :=
    eq_ok_of_toOption (by decide +kernel)
  unfold eligible
  simp only [found]
  rfl

theorem single_begin (stop : Reply Unit) :
    single.begin (passing stop) "t/a" = .inSandbox (passingBox stop) singleTask := by
  have loads : Task.load single.fs single.config "t/a" = .ok singleTask :=
    eq_ok_of_toOption (by decide +kernel)
  unfold Trial.begin
  simp only [loads]
  rfl

theorem single_name : taskNameOf "t/a" = "a" := by decide +kernel

/-- The pipeline comes to the verdict at once, and no stop has a say in it. -/
theorem single_end (stop : Reply Unit) :
    let last := single.pipelineEnd (passingBox stop) "a" singleTask
    (Trial.outcomeOf last.1).isResolved = true ∧ last.2.now = 0 := by
  have passes : let last := single.pipelineEnd (passingBox { ending := .value () }) "a" singleTask
      ((Trial.outcomeOf last.1).isResolved && last.2.now == 0) = true := by
    decide +kernel
  intro last
  have same : last = single.pipelineEnd (passingBox { ending := .value () }) "a" singleTask :=
    single.pipelineEnd_alike (Made.stoppedBy_alike _ _ _) "a" singleTask
  rw [same]
  simpa using passes

/-- What the trial has found out by the release. -/
theorem single_found (stop : Reply Unit) : ∃ outcome, outcome.isResolved = true ∧
    single.found (passing stop) "t/a" = .ok ⟨"a", some "box", outcome⟩ := by
  refine ⟨_, (single_end stop).1, ?_⟩
  rw [single.found_inSandbox _ _ (single_begin stop), single_name]
  rfl

/-- A report is overtaken by a stop that crashes, or by one that outlasts the calendar. -/
theorem single_overtaking (stop : Reply Unit) (start : Nat) :
    overtaking? single (passing stop) still "t/a" start =
      stop.ending.crash?.or (calendarCrash? still start stop.delay) := by
  obtain ⟨outcome, -, known⟩ := single_found stop
  have length := single.run_length _ _ (single_begin stop)
  rw [single_name, (single_end stop).2, Nat.zero_add] at length
  have stopped := single.stopCrash?_inSandbox _ _ (single_begin stop)
  rw [overtaking?_of_ok known, stopped, length]
  rfl

/-- A stop that fails after a minute leaves the report as it is. -/
theorem reports_agree_iff_late_stop :
    let prompt := passing { ending := .value () }
    let late := passing { ending := .error (.command "gone"), delay := 60000 }
    (∃ reports, Reported single prompt "t" 1 still reports) ∧
    ∀ reports reports', Reported single prompt "t" 1 still reports →
      Reported single late "t" 1 still reports' →
      ∃ r r', reports[0]? = some r ∧ reports'[0]? = some r' ∧ r.finding = r'.finding := by
  intro prompt late
  obtain ⟨exist, agree⟩ :=
    reports_agree_iff single prompt late single_eligible single_eligible still still
  refine ⟨exist, fun reports reports' told told' => ?_⟩
  obtain ⟨start, start', r, r', here, here', -, -, -, iff⟩ :=
    agree reports reports' told told' 0 "t/a" rfl (passing_alike _ _ _)
  refine ⟨r, r', here, here', iff.mpr ?_⟩
  rw [single_overtaking, single_overtaking, calendarCrash?_still, calendarCrash?_still start']
  decide +kernel

/-- A stop that crashes takes the verdict and the sandbox out of the report. -/
theorem stop_overtakes_verdict :
    let prompt := passing { ending := .value () }
    let crashing := passing { ending := .crash (.message "boom") }
    MadeAlike (prompt "a") (crashing "a") ∧
    (∃ reports, Reported single prompt "t" 1 still reports) ∧
    (∃ reports, Reported single crashing "t" 1 still reports) ∧
    (∀ reports, Reported single prompt "t" 1 still reports → ∃ r, reports[0]? = some r ∧
      r.sandboxId = some "box" ∧ r.outcome.isResolved = true) ∧
    ∀ reports, Reported single crashing "t" 1 still reports → ∃ r, reports[0]? = some r ∧
      r.sandboxId = none ∧ r.outcome.error? = some "task runner panicked: boom" := by
  intro prompt crashing
  refine ⟨passing_alike _ _ _, ⟨_, .plan (run_place _ _ single_eligible)⟩,
    ⟨_, .plan (run_place _ _ single_eligible)⟩, fun reports told => ?_, fun reports told => ?_⟩
  · obtain ⟨start, here⟩ := told.getElem? single_eligible (rfl : ["t/a"][0]? = some "t/a")
    obtain ⟨outcome, resolved, known⟩ := single_found { ending := .value () }
    have kept : overtaking? single prompt still "t/a" start = none := by
      rw [single_overtaking, calendarCrash?_still]
      decide +kernel
    have finding := reportOn_finding single prompt still "t/a" start
    rw [known, kept] at finding
    refine ⟨_, here, ?_, ?_⟩
    · rw [TaskResult.sandboxId_eq finding, Finding.reported]
    · rw [TaskResult.outcome_eq finding, Finding.reported, resolved]
  · obtain ⟨start, here⟩ := told.getElem? single_eligible (rfl : ["t/a"][0]? = some "t/a")
    have lost : overtaking? single crashing still "t/a" start = some (.message "boom") :=
      single_overtaking _ start
    have finding := reportOn_finding single crashing still "t/a" start
    rw [lost] at finding
    refine ⟨_, here, ?_, ?_⟩
    · rw [TaskResult.sandboxId_eq finding, Finding.reported, Finding.crashed]
    · rw [TaskResult.outcome_eq finding, Finding.reported, Finding.crashed]
      rfl

end Batch

end AgentTrial
