import AgentTrial.Proofs.Batch.Plan

/-!
# Independence of trials

A batch that is not dropped is as good as its trials on their own: whatever the order in which they
go on, each is reported as it is reported alone, and makes the same calls, later.

* **Reports** — the reports that a batch comes to are those of its plan, and of every order in which
  its trials go on to the end (`Reported`). Each is the report on a trial alone, from some instant on
  (`Reported.getElem?`), and what is told in it does not depend on that instant while the calendar
  lasts (`told_result`).
* **Batches** — so a batch comes to one report for each task, which tells what the trial alone
  returns, for any number of slots, and no sandbox has a say in another's trial
  (`batch_independent`).
-/

namespace AgentTrial

/-! ## Reports -/

/-- What a report says that a trial has found out. -/
def TaskResult.finding (r : TaskResult) : Finding := ⟨r.taskName, r.sandboxId, r.outcome⟩

/-- What is reported of a trial that returns a result, or that a crash escapes: then there is neither
a sandbox nor a stage. -/
def Finding.told (dir : String) : Except Crash TaskResult → Finding
  | .ok r => r.finding
  | .error c => ⟨taskNameOf dir, none, .failed none s!"task runner panicked: {c.text}"⟩

namespace Batch

variable {σ : Type}

/-- The crash of the calendar when it ends before a trial of some length does. -/
def calendarCrash? (calendar : Nat → Instant) (start length : Nat) : Option Crash :=
  match (calendar start).add (.ofMillis length) with
  | .ok _ => none
  | .error c => some c

/-- The report on a trial alone that begins at an instant. -/
def reportOn (trial : Trial) (make : Maker σ) (calendar : Nat → Instant) (dir : String)
    (start : Nat) : TaskResult :=
  (⟨dir, start, trial.run make dir⟩ : Placed).report calendar

/-- The report on a task of an undropped batch, once its trial is over. The length of the trial is
counted from the instant at which it began. -/
def Job.report? (calendar : Nat → Instant) (job : Job σ) : Option TaskResult :=
  match job.standing with
  | .finished start timeline =>
    some ((⟨job.dir, start, { timeline with length := timeline.length - start }⟩ : Placed).report
      calendar)
  | _ => none

/-- The reports that a batch may come to, by a calendar. -/
inductive Reported (trial : Trial) (make : Maker σ) (root : String) (slots : Nat)
    (calendar : Nat → Instant) : List TaskResult → Prop where
  /-- Those of its plan. -/
  | plan {placed : List Placed} (planned : run trial make root slots = .value placed) :
      Reported trial make root slots calendar (placed.map (·.report calendar))
  /-- Those of any order in which its trials go on to the end. -/
  | pool {dirs : List String} {p : Pool σ} {reports : List TaskResult}
      (accepted : eligible trial.fs trial.config root slots = .value dirs)
      (goes : Pool.Goes trial make slots dirs p) (finished : p.isOver)
      (reached : trial.executor.clock.reaches p.clock trial.config.testTimeoutSecs)
      (told : p.jobs.map (·.report? calendar) = reports.map some) :
      Reported trial make root slots calendar reports

section Reports

variable {trial : Trial} {make : Maker σ} {root : String} {slots : Nat} {calendar : Nat → Instant}
  {dirs : List String} {dir : String} {start : Nat}

/-- The report on a trial is the result that it returns, … -/
theorem reportOn_of_ok {r : TaskResult}
    (returned : (trial.run make dir).result (calendar start) = .ok r) :
    reportOn trial make calendar dir start = r := by
  simp only [reportOn, Placed.report, returned]

/-- … and it tells of a crash that escapes it. -/
theorem reportOn_told : (reportOn trial make calendar dir start).finding =
    .told dir ((trial.run make dir).result (calendar start)) := by
  unfold reportOn Placed.report
  cases (trial.run make dir).result (calendar start) <;> rfl

/-- What is told of a trial does not depend on the instant at which it begins, unless the calendar
ends before it does. -/
theorem told_result (t : Timeline) {calendar' : Nat → Instant} {start' : Nat}
    (lasts : calendarCrash? calendar start t.length = none)
    (lasts' : calendarCrash? calendar' start' t.length = none) :
    Finding.told dir (t.result (calendar start)) = .told dir (t.result (calendar' start')) := by
  unfold calendarCrash? at lasts lasts'
  unfold Timeline.result
  cases t.finding with
  | error c => rfl
  | ok finding =>
      simp only [TaskResult.new]
      cases ends : (calendar start).add (.ofMillis t.length) with
      | error c =>
          rw [ends] at lasts
          cases lasts
      | ok completed =>
          cases ends' : (calendar' start').add (.ofMillis t.length) with
          | error c =>
              rw [ends'] at lasts'
              cases lasts'
          | ok completed' => rfl

theorem Job.report?_later {job : Job σ}
    (h : job.standing = .finished start ((trial.run make job.dir).later start)) :
    job.report? calendar = some (reportOn trial make calendar job.dir start) := by
  simp [report?, h, reportOn, Timeline.later, Placed.report, Placed.finish, Timeline.result]

/-- Every order in which the trials of a batch go on to the end comes to reports. -/
theorem Pool.Goes.reports {p : Pool σ} (h : Pool.Goes trial make slots dirs p) (finished : p.isOver)
    (reached : trial.executor.clock.reaches p.clock trial.config.testTimeoutSecs) :
    ∃ reports : List TaskResult, p.jobs.map (·.report? calendar) = reports.map some := by
  have each : ∀ job ∈ p.jobs, ∃ r, job.report? calendar = some r := by
    intro job mem
    obtain ⟨start, ended⟩ := h.over_alone finished reached mem
    exact ⟨_, Job.report?_later ended⟩
  clear h finished reached
  generalize p.jobs = jobs at each ⊢
  induction jobs with
  | nil => exact ⟨[], rfl⟩
  | cons job rest ih =>
      obtain ⟨first, others⟩ := List.forall_mem_cons.mp each
      obtain ⟨r, told⟩ := first
      obtain ⟨reports, tolds⟩ := ih others
      exact ⟨r :: reports, by rw [List.map_cons, List.map_cons, told, tolds]⟩

theorem Reported.length {reports : List TaskResult}
    (h : Reported trial make root slots calendar reports)
    (accepted : eligible trial.fs trial.config root slots = .value dirs) :
    reports.length = dirs.length := by
  cases h with
  | plan planned =>
      obtain ⟨found, eligible, rfl⟩ := eligible_of_run trial make planned
      obtain rfl : found = dirs := Ending.value.inj (eligible.symm.trans accepted)
      have trials := congrArg List.length
        (place_trials slots (found.map fun dir => (dir, trial.run make dir)))
      simpa using trials
  | pool eligible goes finished reached told =>
      obtain rfl := Ending.value.inj (eligible.symm.trans accepted)
      have reports := congrArg List.length told
      rw [List.length_map, List.length_map] at reports
      rw [← reports, ← goes.map_dir, List.length_map]

/-- **Reports.** The report on a task is the report on its trial alone, from some instant on. -/
theorem Reported.getElem? {reports : List TaskResult}
    (h : Reported trial make root slots calendar reports)
    (accepted : eligible trial.fs trial.config root slots = .value dirs) {i : Nat}
    (here : dirs[i]? = some dir) :
    ∃ start, reports[i]? = some (reportOn trial make calendar dir start) := by
  cases h with
  | plan planned =>
      obtain ⟨found, eligible, rfl⟩ := eligible_of_run trial make planned
      obtain rfl : found = dirs := Ending.value.inj (eligible.symm.trans accepted)
      have trials := congrArg (·[i]?)
        (place_trials slots (found.map fun dir => (dir, trial.run make dir)))
      simp only [List.getElem?_map, here, Option.map_some] at trials
      obtain ⟨p, place, eq⟩ := Option.map_eq_some_iff.mp trials
      obtain ⟨rfl, timeline⟩ := Prod.mk.inj eq
      refine ⟨p.start, ?_⟩
      rw [List.getElem?_map, place, reportOn, ← timeline]
      rfl
  | pool eligible goes finished reached told =>
      obtain rfl := Ending.value.inj (eligible.symm.trans accepted)
      have dirs := congrArg (·[i]?) goes.map_dir
      have reports := congrArg (·[i]?) told
      simp only [List.getElem?_map, here] at dirs reports
      obtain ⟨job, there, rfl⟩ := Option.map_eq_some_iff.mp dirs
      obtain ⟨start, ended⟩ := goes.over_alone finished reached (List.mem_of_getElem? there)
      rw [there, Option.map_some, Job.report?_later ended, eq_comm,
        Option.map_eq_some_iff] at reports
      obtain ⟨r, place, eq⟩ := reports
      exact ⟨start, by rw [place, eq]⟩

/-- Reports on a task that has the same sandbox in two batches tell of the same finding. -/
theorem Reported.agree {make' : Maker σ} {slots' : Nat} {calendar' : Nat → Instant}
    {reports reports' : List TaskResult} (told : Reported trial make root slots calendar reports)
    (told' : Reported trial make' root slots' calendar' reports')
    (accepted : eligible trial.fs trial.config root slots = .value dirs)
    (accepted' : eligible trial.fs trial.config root slots' = .value dirs) {i : Nat}
    (here : dirs[i]? = some dir) (same : make (taskNameOf dir) = make' (taskNameOf dir)) :
    ∃ start start' r r', reports[i]? = some r ∧ reports'[i]? = some r' ∧
      (calendarCrash? calendar start (trial.run make dir).length = none →
        calendarCrash? calendar' start' (trial.run make dir).length = none →
        r.finding = r'.finding) := by
  obtain ⟨start, place⟩ := told.getElem? accepted here
  obtain ⟨start', place'⟩ := told'.getElem? accepted' here
  refine ⟨start, start', _, _, place, place', fun lasts lasts' => ?_⟩
  rw [reportOn_told, reportOn_told, ← trial.run_congr make dir same]
  exact told_result _ lasts lasts'

/-- A job that has the same sandbox in two batches comes to the same trial in both. -/
theorem Pool.Goes.same_trial {make' : Maker σ} {slots' : Nat} {p p' : Pool σ}
    (goes : Pool.Goes trial make slots dirs p) (goes' : Pool.Goes trial make' slots' dirs p')
    (ended : p.isOver ∧ trial.executor.clock.reaches p.clock trial.config.testTimeoutSecs)
    (ended' : p'.isOver ∧ trial.executor.clock.reaches p'.clock trial.config.testTimeoutSecs)
    {i : Nat} {job job' : Job σ} (here : p.jobs[i]? = some job) (here' : p'.jobs[i]? = some job')
    (same : make (taskNameOf job.dir) = make' (taskNameOf job.dir)) :
    job.dir = job'.dir ∧ ∃ (timeline : Timeline) (start start' : Nat),
      job.standing = .finished start (timeline.later start) ∧
      job'.standing = .finished start' (timeline.later start') := by
  -- jobs stay where their tasks were discovered
  have dir : job.dir = job'.dir := by
    have first := congrArg (·[i]?) goes.map_dir
    have second := congrArg (·[i]?) goes'.map_dir
    simp only [List.getElem?_map, here, here', Option.map_some] at first second
    exact Option.some.inj (first.trans second.symm)
  obtain ⟨start, eq⟩ := goes.over_alone ended.1 ended.2 (List.mem_of_getElem? here)
  obtain ⟨start', eq'⟩ := goes'.over_alone ended'.1 ended'.2 (List.mem_of_getElem? here')
  rw [← dir, ← trial.run_congr make job.dir same] at eq'
  exact ⟨dir, _, start, start', eq, eq'⟩

end Reports

/-! ## Batches -/

theorem eligible_discover {fs : FileSystem} {config : HarnessConfig} {root : String} {slots : Nat}
    {dirs : List String} (h : eligible fs config root slots = .value dirs) :
    discover fs config root = .ok dirs ∧ dirs ≠ [] := by
  rw [eligible] at h
  split at h
  · cases h
  · split at h
    · cases h
    · cases h
    · rename_i found notNil eq
      split at h
      · cases h
      · cases h
        exact ⟨eq, notNil⟩

/-- **Independence.** Of a batch with any number of slots that is accepted, of any tasks with any
sandboxes, by any calendar:

* there are tasks, in the order in which they are discovered;
* if it is not dropped, it neither stands still nor goes on for ever, in whatever order its trials
  go on;
* when it is over, and the clock reaches the deadline of the tests up to then, there are reports, as
  there are by its plan;
* there is one report for each task, in their order. It is the result that the trial of the task
  alone returns when it begins at some instant, or it tells of the crash that escapes that trial; and
  it tells of the same finding as the trial alone from any other instant, unless the calendar ends
  before either trial;
* with other sandboxes and other slots, a task that keeps its sandbox has a report of the same
  finding, unless the calendar ends, and comes to the same trial, with the same calls, but for the
  instant at which it begins. -/
theorem batch_independent (trial : Trial) (make : Maker σ) {root : String} {slots : Nat}
    {dirs : List String} (accepted : eligible trial.fs trial.config root slots = .value dirs)
    (calendar : Nat → Instant) :
    (discover trial.fs trial.config root = .ok dirs ∧ dirs ≠ []) ∧
    (∀ p, Pool.Goes trial make slots dirs p →
      (p.isOver ∨ ∃ q, Pool.Advance trial make p q) ∧
        Acc (fun q p => Pool.Advance trial make p q) p ∧
        (p.isOver → trial.executor.clock.reaches p.clock trial.config.testTimeoutSecs →
          ∃ reports : List TaskResult, p.jobs.map (·.report? calendar) = reports.map some ∧
            Reported trial make root slots calendar reports)) ∧
    (∃ placed, run trial make root slots = .value placed ∧
      Reported trial make root slots calendar (placed.map (·.report calendar))) ∧
    (∀ reports, Reported trial make root slots calendar reports →
      reports.length = dirs.length ∧
      ∀ (i : Nat) dir, dirs[i]? = some dir → ∃ start r, reports[i]? = some r ∧
        let alone := trial.run make dir
        (∀ result, alone.result (calendar start) = .ok result → r = result) ∧
        r.finding = .told dir (alone.result (calendar start)) ∧
        ∀ calendar' start', calendarCrash? calendar start alone.length = none →
          calendarCrash? calendar' start' alone.length = none →
          r.finding = .told dir (alone.result (calendar' start'))) ∧
    ∀ (make' : Maker σ) slots' calendar',
      eligible trial.fs trial.config root slots' = .value dirs →
      (∀ reports reports', Reported trial make root slots calendar reports →
        Reported trial make' root slots' calendar' reports' →
        ∀ (i : Nat) dir, dirs[i]? = some dir → make (taskNameOf dir) = make' (taskNameOf dir) →
          ∃ start start' r r', reports[i]? = some r ∧ reports'[i]? = some r' ∧
            (calendarCrash? calendar start (trial.run make dir).length = none →
              calendarCrash? calendar' start' (trial.run make dir).length = none →
              r.finding = r'.finding)) ∧
      ∀ p p', Pool.Goes trial make slots dirs p → Pool.Goes trial make' slots' dirs p' →
        p.isOver → p'.isOver →
        trial.executor.clock.reaches p.clock trial.config.testTimeoutSecs →
        trial.executor.clock.reaches p'.clock trial.config.testTimeoutSecs →
        ∀ (i : Nat) job job', p.jobs[i]? = some job → p'.jobs[i]? = some job' →
          make (taskNameOf job.dir) = make' (taskNameOf job.dir) →
          job.dir = job'.dir ∧ ∃ (timeline : Timeline) (start start' : Nat),
            job.standing = .finished start (timeline.later start) ∧
            job'.standing = .finished start' (timeline.later start') := by
  refine ⟨eligible_discover accepted, fun p goes => ⟨?_, ?_, fun finished reached => ?_⟩,
    ⟨_, run_place trial make accepted, .plan (run_place trial make accepted)⟩,
    fun reports told => ⟨told.length accepted, fun i dir here => ?_⟩,
    fun make' slots' calendar' accepted' => ⟨?_, ?_⟩⟩
  · exact goes.progress (eligible_slots accepted)
  · exact Pool.advance_acc p goes.owed_eq_zero
  · obtain ⟨reports, told⟩ := goes.reports finished reached
    exact ⟨reports, told, .pool accepted goes finished reached told⟩
  · obtain ⟨start, place⟩ := told.getElem? accepted here
    refine ⟨start, _, place, fun result returned => reportOn_of_ok returned, reportOn_told,
      fun calendar' start' lasts lasts' => ?_⟩
    exact reportOn_told.trans (told_result _ lasts lasts')
  · exact fun reports reports' told told' i dir here same =>
      told.agree told' accepted accepted' here same
  · exact fun p p' goes goes' finished finished' reached reached' i job job' here here' same =>
      goes.same_trial goes' ⟨finished, reached⟩ ⟨finished', reached'⟩ here here' same

/-- Makes the same sandboxes for a pair of tasks, but crashes over that of the second. -/
def brokenMaker : Maker (List Script.Rule) := fun name =>
  if name = "b" then .crash (.message "boom") else pairMaker name

/-- A calendar that stands still. -/
def still (_ : Nat) : Instant := ⟨0, 0, 0⟩

theorem calendarCrash?_still (start length : Nat) :
    calendarCrash? still start length = calendarCrash? still 0 length := by
  have same : still start = still 0 := rfl
  rw [calendarCrash?, calendarCrash?, same]

/-- The crash escapes the second trial. -/
theorem brokenMaker_run : (pair.run brokenMaker "t/b").finding = .error (.message "boom") := by
  have loads : Task.load pair.fs pair.config "t/b" =
      .ok ⟨"mend it", "t/b/tests", "t/b/run-tests.sh"⟩ :=
    eq_ok_of_toOption (by decide +kernel)
  have name : taskNameOf "t/b" = "b" := by decide +kernel
  have begun : ∃ log, pair.begin brokenMaker "t/b" =
      .early (.withoutSandbox (.error (.message "boom")) log) := by
    unfold Trial.begin
    simp only [loads, name, brokenMaker, if_pos]
    exact ⟨_, rfl⟩
  obtain ⟨log, begun⟩ := begun
  rw [pair.run_early brokenMaker "t/b" begun]
  rfl

/-- A plan of the two tasks is a way to go, up to its end. -/
theorem pair_goes (make : Maker (List Script.Rule)) {slots last : Nat}
    (accepted : eligible pair.fs pair.config "t" slots = .value ["t/a", "t/b"])
    (ends : finish (place slots (["t/a", "t/b"].map fun dir => (dir, pair.run make dir))) = last)
    (reached : pair.executor.clock.reaches last pair.config.testTimeoutSecs) :
    ∃ p, Pool.Goes pair make slots ["t/a", "t/b"] p ∧ p.isOver ∧ p.clock = last := by
  subst ends
  obtain ⟨dirs, p, found, goes, finished, clock, -⟩ :=
    plan_goes pair make (run_place pair make accepted) reached
  obtain rfl := Ending.value.inj (accepted.symm.trans found)
  exact ⟨p, goes, finished, clock⟩

/-- Two tasks one after the other, and both at once where a crash escapes the second: the first is
the same in both. -/
theorem batch_independent_pair :
    (∃ p p', Pool.Goes pair pairMaker 1 ["t/a", "t/b"] p ∧
      Pool.Goes pair brokenMaker 2 ["t/a", "t/b"] p' ∧ p.isOver ∧ p'.isOver ∧ p.clock = 1000 ∧
      p'.clock = 500 ∧ ∃ (job job' : Job (List Script.Rule)) (t : Timeline) (start start' : Nat),
        p.jobs[0]? = some job ∧ p'.jobs[0]? = some job' ∧
        job.standing = .finished start (t.later start) ∧
        job'.standing = .finished start' (t.later start')) ∧
    (∃ reports, Reported pair pairMaker "t" 1 still reports) ∧
    (∃ reports, Reported pair brokenMaker "t" 2 still reports) ∧
    ∀ reports reports', Reported pair pairMaker "t" 1 still reports →
      Reported pair brokenMaker "t" 2 still reports' → reports.length = 2 ∧ reports'.length = 2 ∧
      (∃ r r', reports[0]? = some r ∧ reports'[0]? = some r' ∧ r.finding = r'.finding) ∧
      ∃ r', reports'[1]? = some r' ∧
        r'.finding = ⟨"b", none, .failed none "task runner panicked: boom"⟩ := by
  have one : eligible pair.fs pair.config "t" 1 = .value ["t/a", "t/b"] :=
    pair_eligible (by decide) (by decide)
  have two : eligible pair.fs pair.config "t" 2 = .value ["t/a", "t/b"] :=
    pair_eligible (by decide) (by decide)
  obtain ⟨-, -, ⟨placed, -, told⟩, each, others⟩ := batch_independent pair pairMaker one still
  obtain ⟨-, -, ⟨placed', -, told'⟩, each', -⟩ := batch_independent pair brokenMaker two still
  obtain ⟨findings, trials⟩ := others brokenMaker 2 still two
  have name : taskNameOf "t/a" = "a" := by decide +kernel
  have kept : pairMaker (taskNameOf "t/a") = brokenMaker (taskNameOf "t/a") := by
    rw [name]
    rfl
  refine ⟨?_, ⟨_, told⟩, ⟨_, told'⟩, fun reports reports' told told' => ?_⟩
  · obtain ⟨p, goes, finished, clock⟩ :=
      pair_goes pairMaker one (by decide +kernel : _ = 1000) (by decide)
    obtain ⟨p', goes', finished', clock'⟩ :=
      pair_goes brokenMaker two (by decide +kernel : _ = 500) (by decide)
    have first := congrArg (·[0]?) goes.map_dir
    have first' := congrArg (·[0]?) goes'.map_dir
    simp only [List.getElem?_map] at first first'
    obtain ⟨job, here, dir⟩ := Option.map_eq_some_iff.mp first
    obtain ⟨job', here', -⟩ := Option.map_eq_some_iff.mp first'
    obtain ⟨-, t, start, start', eq, eq'⟩ := trials p p' goes goes' finished finished'
      (by rw [clock]; decide) (by rw [clock']; decide) 0 job job' here here' (by rw [dir, kept])
    exact ⟨p, p', goes, goes', finished, finished', clock, clock', job, job', t, start, start',
      here, here', eq, eq'⟩
  · obtain ⟨start, start', r, r', here, here', same⟩ :=
      findings reports reports' told told' 0 "t/a" rfl kept
    obtain ⟨start₂, r₂, there, -, finding, -⟩ := (each' reports' told').2 1 "t/b" rfl
    have length : (pair.run pairMaker "t/a").length = 500 := by decide +kernel
    have lasts (start : Nat) : calendarCrash? still start 500 = none := by
      rw [calendarCrash?_still]
      decide +kernel
    rw [length] at same
    refine ⟨(each reports told).1, (each' reports' told').1,
      ⟨r, r', here, here', same (lasts start) (lasts start')⟩, r₂, there, ?_⟩
    have second : taskNameOf "t/b" = "b" := by decide +kernel
    rw [finding, Timeline.result, brokenMaker_run]
    simp only [Finding.told, second]
    rfl

end Batch

end AgentTrial
