import AgentTrial.Proofs.Trial.Stages
import AgentTrial.Proofs.Trial.Teardown

/-!
# Attribution of failures

What a trial without crashes comes to, from its settings to its result.

* **Teardown** — a pipeline is followed by one more call, the stop, whatever became of it
  (`inside_talk`).
* **Attribution** — so the calls of a trial are a beginning of the one order there is, cut after the
  first that fails, and then the stop; and the stage of its failure is the one that owns the cut, in
  what it finds out and in the result that it returns (`stage_attribution`).
-/

namespace AgentTrial

open Routine

/-- What an outcome says of how far a trial went: all the way with a verdict, or up to a failure of
the stage that it names. -/
def Outcome.Names : Outcome → Option Stage → Prop
  | .success _ _, fate => fate = none
  | .failed stage _, fate => fate = stage ∧ fate.isSome

/-- The stage of a failure. -/
def Outcome.stage? : Outcome → Option Stage
  | .success _ _ => none
  | .failed stage _ => stage

theorem Outcome.Names.fate_eq {outcome : Outcome} {fate : Option Stage} (h : outcome.Names fate) :
    fate = outcome.stage? := by
  cases outcome with
  | success => exact h
  | failed => exact h.1

/-- What a trial has found out is what its result says, and how long it took, whenever it began. Only
a calendar that ends before the trial does takes the result with it, in a crash. -/
def Timeline.Returns (t : Timeline) (found : Finding) : Prop :=
  t.finding = .ok found ∧ ∀ startedAt : Instant,
    (∃ r completedAt, startedAt.add (.ofMillis t.length) = .ok completedAt ∧
      t.result startedAt = .ok r ∧ (⟨r.taskName, r.sandboxId, r.outcome⟩ : Finding) = found ∧
      r.startedAt = startedAt ∧ r.completedAt = completedAt) ∨
    ∃ c, startedAt.add (.ofMillis t.length) = .error c ∧ t.result startedAt = .error c

theorem Timeline.returns {t : Timeline} {found : Finding} (h : t.finding = .ok found) :
    t.Returns found := by
  refine ⟨h, fun startedAt => ?_⟩
  simp only [result, h, TaskResult.new]
  cases startedAt.add (.ofMillis t.length) with
  | ok completedAt => exact .inl ⟨_, _, rfl, rfl, rfl, rfl, rfl⟩
  | error c => exact .inr ⟨c, rfl, rfl⟩

namespace Trial

variable {σ : Type} (trial : Trial)

/-! ## Teardown -/

theorem releasing_talk {α : Type} (a : α) (backend : Backend σ) (c : Course σ) :
    ∃ stop : Exchange, stop.call = .stop ∧
      (Guard.releasing false >>= fun _ => (Pure.pure a : Routine Empty α)).talk backend c = [stop] ∧
      (stop.IsCalm →
        ((Guard.releasing false >>= fun _ => (Pure.pure a : Routine Empty α)).perform backend c).1 =
          .value a) := by
  obtain ⟨next, eq, onValue, onError, onCrash⟩ : ∃ next : Ending SandboxError Unit → Routine Empty α,
      (Guard.releasing false >>= fun _ => (Pure.pure a : Routine Empty α)) =
        .release (.call .stop next) ∧
      next (.value ()) = .ended (.value a) ∧
      (∀ e, next (.error e) = .note ⟨.warn, .sandbox⟩ (.ended (.value a))) ∧
      ∀ p, next (.crash p) = .ended (.crash p) :=
    ⟨_, rfl, rfl, fun _ => rfl, fun _ => rfl⟩
  refine ⟨⟨.stop, c.now, (backend.call .stop c).2.now, (backend.call .stop c).1.heard⟩, rfl, ?_, ?_⟩
  · rw [eq]
    simp only [talk]
    cases (backend.call .stop c).1 with
    | value => rw [onValue]; rfl
    | error e => rw [onError]; rfl
    | crash p => rw [onCrash]; rfl
  · intro calm
    rw [eq]
    simp only [perform]
    cases ending : (backend.call .stop c).1 with
    | value => rw [onValue]; rfl
    | error e => rw [onError]; rfl
    | crash p =>
        rw [ending] at calm
        exact (calm p rfl).elim

/-- A trial in its sandbox is the pipeline and one stop, and no error of the stop changes what
became of it. -/
theorem inside_talk (unkept : trial.config.keepSandbox = false) (takesDirs : Bool)
    (taskName : String) (task : Task) (backend : Backend σ) (c : Course σ) :
    ∃ stop : Exchange, stop.call = .stop ∧
      (trial.inside takesDirs taskName task).talk backend c =
        (trial.pipeline takesDirs taskName task).talk backend c ++ [stop] ∧
      (stop.IsCalm → ((trial.inside takesDirs taskName task).perform backend c).1 =
        .value (outcomeOf ((trial.pipeline takesDirs taskName task).perform backend c).1)) := by
  rw [inside, settle_bind, talk_follow, perform_follow, unkept]
  obtain ⟨stop, stops, said, done⟩ := releasing_talk
    (outcomeOf ((trial.pipeline takesDirs taskName task).perform backend c).1) backend _
  exact ⟨stop, stops, congrArg _ said, done⟩

/-- The conversation of a trial with the sandbox that is made for it, if one is. -/
def talk (make : Maker σ) (dir : String) : List Exchange :=
  match trial.begin make dir with
  | .early _ => []
  | .inSandbox made task =>
    (trial.inside made.backend.takesDirs (taskNameOf dir) task).talk made.backend (made.course 0)

/-! ## Attribution -/

/-- A trial in a sandbox is accounted for by what was said before the stop, by the stop, and by the
stage it failed in, if it did. -/
structure Accounted (trial : Trial) (made : Made σ) (dir : String) (task : Task) (t : Timeline)
    (said : List Exchange) (stop : Exchange) (fate : Option Stage) : Prop where
  /-- What was said went one of the ways there are, … -/
  runs : trial.Runs made.backend.takesDirs (taskNameOf dir) task said fate
  /-- … which is the only one, … -/
  only : ∀ other, trial.Runs made.backend.takesDirs (taskNameOf dir) task said other → other = fate
  /-- … so the calls are a beginning of the one order there is, and all of it without a failure. -/
  calls : ∃ pid probes, said.map (·.call) <+:
      trial.canonical made.backend.takesDirs (taskNameOf dir) task pid probes ∧
    (fate = none → said.map (·.call) =
      trial.canonical made.backend.takesDirs (taskNameOf dir) task pid probes)
  /-- The one stop comes last. -/
  stops : stop.call = .stop ∧ .stop ∉ said.map (·.call)
  /-- Each call was over before the next was made. -/
  inOrder : (said ++ [stop]).Pairwise fun x y => x.ended ≤ y.began
  /-- This is all that is recorded. -/
  entries : t.entries = (said ++ [stop]).map Exchange.entry
  /-- The result has the sandbox, and the stage of the failure if there is one. -/
  returns : ∃ outcome, t.Returns ⟨taskNameOf dir, some made.backend.id, outcome⟩ ∧
    outcome.Names fate

theorem Accounted.fate_eq {trial : Trial} {made : Made σ} {dir : String} {task : Task}
    {t : Timeline} {said : List Exchange} {stop : Exchange} {fate stage : Option Stage}
    (h : trial.Accounted made dir task t said stop fate)
    (found : t.finding.toOption.map (·.outcome.stage?) = some stage) : fate = stage := by
  obtain ⟨outcome, returns, names⟩ := h.returns
  rw [returns.1] at found
  exact names.fate_eq.trans (Option.some.inj found)

section Begin

variable {make : Maker σ} {dir : String} {task : Task}

theorem begin_unloaded {e : TrialError}
    (unloaded : Task.load trial.fs trial.config dir = .error e) :
    trial.begin make dir = .early (.failedEarly (taskNameOf dir) .configLoading e
      [⟨.info, .trial⟩, ⟨.error, .trial⟩]) := by
  unfold begin
  simp only [unloaded]

theorem begin_unmade {e : SandboxError} (loaded : Task.load trial.fs trial.config dir = .ok task)
    (unmade : make (taskNameOf dir) = .error e) :
    trial.begin make dir = .early (.failedEarly (taskNameOf dir) .environmentStarting (.sandbox e)
      [⟨.info, .trial⟩, ⟨.error, .trial⟩]) := by
  unfold begin
  simp only [loaded, unmade]

theorem begin_made {made : Made σ} (loaded : Task.load trial.fs trial.config dir = .ok task)
    (is : make (taskNameOf dir) = .value made) :
    trial.begin make dir = .inSandbox made task := by
  unfold begin
  simp only [loaded, is]

theorem begin_inSandbox {made : Made σ} (begun : trial.begin make dir = .inSandbox made task) :
    make (taskNameOf dir) = .value made := by
  unfold begin at begun
  dsimp only at begun
  split at begun
  · cases begun
  · split at begun
    · cases begun
    · cases begun
    · cases begun
      assumption

theorem talk_made {made : Made σ} (begun : trial.begin make dir = .inSandbox made task) :
    trial.talk make dir =
      (trial.inside made.backend.takesDirs (taskNameOf dir) task).talk made.backend
        (made.course 0) := by
  unfold talk
  simp only [begun]

/-- With sandboxes that never crash a trial hears of no crash. -/
theorem talk_isCalm
    (calm : ∀ made, make (taskNameOf dir) = .value made →
      ∀ box now asked p, (made.backend.respond box now asked).1.ending ≠ .crash p) :
    ∀ x ∈ trial.talk make dir, x.IsCalm := by
  cases begun : trial.begin make dir with
  | early timeline =>
      unfold talk
      simp only [begun]
      exact fun x mem => absurd mem List.not_mem_nil
  | inSandbox made task =>
      rw [trial.talk_made begun]
      exact Routine.talk_isCalm (calm made (trial.begin_inSandbox begun)) _ _

end Begin

theorem outcomeOf_names {far : Option Stage → Prop} {ending : Ending StageFailure Verdict}
    (told : Told (·.stage) far ending) : ∃ fate, far fate ∧ (outcomeOf ending).Names fate := by
  cases ending with
  | value verdict => exact ⟨none, told, rfl⟩
  | error failure => exact ⟨some failure.stage, told, rfl, rfl⟩
  | crash p => exact told.elim

/-- A trial in a sandbox is accounted for, when nothing crashes and the clock can show the deadline
of the tests. -/
theorem inside_accounted {make : Maker σ} {dir : String} {task : Task} {made : Made σ}
    (unkept : trial.config.keepSandbox = false)
    (begun : trial.begin make dir = .inSandbox made task)
    (calm : ∀ x ∈ trial.talk make dir, x.IsCalm)
    (reached : trial.Reached (sessionName (taskNameOf dir)) (trial.talk make dir)) :
    ∃ said stop fate, trial.talk make dir = said ++ [stop] ∧
      trial.Accounted made dir task (trial.run make dir) said stop fate := by
  rw [trial.run_inSandbox make dir begun]
  rw [trial.talk_made begun] at calm reached ⊢
  obtain ⟨stop, stops, said, done⟩ := trial.inside_talk unkept made.backend.takesDirs
    (taskNameOf dir) task made.backend (made.course 0)
  rw [said] at calm reached
  -- what was said before the stop is the conversation of the pipeline
  have told := trial.pipeline_told made.backend.takesDirs (taskNameOf dir) task made.backend
    (made.course 0) (fun x mem => calm x (List.mem_append_left _ mem))
    fun x mem => reached x (List.mem_append_left _ mem)
  obtain ⟨fate, runs, names⟩ := outcomeOf_names told
  refine ⟨_, stop, fate, said, {
    runs := runs
    only := fun other also => also.unique runs
    calls := runs.calls
    stops := ⟨stops, ?_⟩
    inOrder := ?_
    entries := ?_
    returns := ?_ }⟩
  · intro mem
    obtain ⟨x, mem, isStop⟩ := List.mem_map.mp mem
    exact (trial.pipeline_permitted made.backend.takesDirs (taskNameOf dir) task).talk made.backend
      _ x mem isStop
  · rw [← said]
    exact talk_pairwise made.backend _ _
  · rw [← said]
    exact perform_entries made.backend _ _
  · have ending := done (calm stop (List.mem_append_right _ List.mem_cons_self))
    exact ⟨_, Timeline.returns (by simp only [Timeline.ofCourse, ending]), names⟩

/-- **Attribution.** A trial without crashes, whose settings let the clock show the deadline of its
tests and tear its sandbox down, fails at once where its task cannot be read or its sandbox not be
made; and otherwise it is accounted for. -/
theorem stage_attribution (make : Maker σ) (dir : String)
    (unkept : trial.config.keepSandbox = false)
    (makes : ∀ p, make (taskNameOf dir) ≠ .crash p)
    (calm : ∀ x ∈ trial.talk make dir, x.IsCalm)
    (reached : trial.Reached (sessionName (taskNameOf dir)) (trial.talk make dir)) :
    match Task.load trial.fs trial.config dir, make (taskNameOf dir) with
    | .error e, _ =>
      (trial.run make dir).entries = [] ∧ (trial.run make dir).Returns
        ⟨taskNameOf dir, none, .failed (some .configLoading) e.text⟩
    | .ok _, .error e =>
      (trial.run make dir).entries = [] ∧ (trial.run make dir).Returns
        ⟨taskNameOf dir, none, .failed (some .environmentStarting) (TrialError.sandbox e).text⟩
    | .ok task, .value made =>
      ∃ said stop fate, trial.talk make dir = said ++ [stop] ∧
        trial.Accounted made dir task (trial.run make dir) said stop fate
    | .ok _, .crash _ => False := by
  cases loaded : Task.load trial.fs trial.config dir with
  | error e =>
      rw [trial.run_early make dir (trial.begin_unloaded loaded)]
      exact ⟨rfl, Timeline.returns rfl⟩
  | ok task =>
      cases is : make (taskNameOf dir) with
      | value made =>
          exact trial.inside_accounted unkept (trial.begin_made loaded is) calm reached
      | error e =>
          rw [trial.run_early make dir (trial.begin_unmade loaded is)]
          exact ⟨rfl, Timeline.returns rfl⟩
      | crash p => exact makes p is

/-! ## A trial of two sandboxes -/

/-- A sandbox in which every call succeeds at once, and every command gives one output. -/
def answering (out : CommandOutput) : Backend Unit where
  id := "box"
  takesDirs := true
  respond _ _ asked := ({ ending := .value (match asked with
    | .start => ()
    | .stop => ()
    | .session .. => ()
    | .run .. => out
    | .probe .. => (1 : Int)
    | .uploadFile .. => true
    | .uploadDir .. => (0 : Int)) }, ())

/-- A sandbox in which every call succeeds at once, … -/
def obliging : Backend Unit := answering { output := "[1] 42" }

/-- … and one in which every command fails. -/
def refusing : Backend Unit := answering { exitCode := 1 }

/-- A trial of the task below. -/
def plain : Trial where
  config := {}
  agent := { installCommands := ["pip install agent"] }
  executor := .hourly
  fs := {
    root := .dir (.cons "a" (.dir (.cons "task.yaml" (.ofText "instruction: mend it")
      (.cons "tests" (.dir .nil) (.cons "run-tests.sh" (.ofText "exit 0") .nil)))) .nil)
    workingDir := [] }

/-- The task of a directory. -/
def plainTask : Task := ⟨"mend it", "a/tests", "a/run-tests.sh"⟩

theorem plain_load : Task.load plain.fs plain.config "a" = .ok plainTask := by
  refine eq_ok_of_toOption ?_
  decide +kernel

example : (plain.talk (fun _ => .value ⟨obliging, ()⟩) "a").map (·.call) =
    plain.canonical true "a" plainTask 42 1 ++ [.stop] := by decide +kernel

/-- A trial that comes to a verdict, and one whose agent cannot be installed. -/
theorem stage_attribution_plain :
    (∃ said stop, plain.talk (fun _ => .value ⟨obliging, ()⟩) "a" = said ++ [stop] ∧
      plain.Accounted ⟨obliging, ()⟩ "a" plainTask
        (plain.run (fun _ => .value ⟨obliging, ()⟩) "a") said stop none) ∧
    ∃ said stop, plain.talk (fun _ => .value ⟨refusing, ()⟩) "a" = said ++ [stop] ∧
      said.length = 3 ∧
      plain.Accounted ⟨refusing, ()⟩ "a" plainTask
        (plain.run (fun _ => .value ⟨refusing, ()⟩) "a") said stop (some .agentInstalling) := by
  have calm (out : CommandOutput) :
      ∀ x ∈ plain.talk (fun _ => .value ⟨answering out, ()⟩) "a", x.IsCalm :=
    plain.talk_isCalm fun made is box now asked p => by
      cases is
      exact nofun
  -- every call of the two is over before the clock runs out
  have reached (out : CommandOutput)
      (all : ((plain.talk (fun _ => .value ⟨answering out, ()⟩) "a").map (·.ended)).all
        (plain.executor.clock.reaches · 3600)) :
      plain.Reached (sessionName (taskNameOf "a"))
        (plain.talk (fun _ => .value ⟨answering out, ()⟩) "a") :=
    fun x mem _ _ => List.all_eq_true.mp all x.ended (List.mem_map_of_mem mem)
  have good := plain.stage_attribution (fun _ => .value ⟨obliging, ()⟩) "a" rfl nofun (calm _)
    (reached _ (by decide +kernel))
  have bad := plain.stage_attribution (fun _ => .value ⟨refusing, ()⟩) "a" rfl nofun (calm _)
    (reached _ (by decide +kernel))
  rw [plain_load] at good bad
  obtain ⟨said, stop, fate, talk, accounted⟩ := good
  obtain ⟨said', stop', fate', talk', accounted'⟩ := bad
  refine ⟨⟨said, stop, talk, ?_⟩, said', stop', talk', ?_, ?_⟩
  · have stage : (plain.run (fun _ => .value ⟨obliging, ()⟩) "a").finding.toOption.map
        (·.outcome.stage?) = some none := by decide +kernel
    exact accounted.fate_eq stage ▸ accounted
  · have length := congrArg List.length talk'
    rw [List.length_append] at length
    have four : (plain.talk (fun _ => .value ⟨refusing, ()⟩) "a").length = 4 := by decide +kernel
    rw [four] at length
    exact (Nat.succ.inj length).symm
  · have stage : (plain.run (fun _ => .value ⟨refusing, ()⟩) "a").finding.toOption.map
        (·.outcome.stage?) = some (some .agentInstalling) := by decide +kernel
    exact accounted'.fate_eq stage ▸ accounted'

end Trial

end AgentTrial
