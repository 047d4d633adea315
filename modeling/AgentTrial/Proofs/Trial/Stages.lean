import AgentTrial.Proofs.Provision.Packing
import AgentTrial.Proofs.Trial.Execution
import AgentTrial.Trial

/-!
# The stages of a trial

Which calls a trial makes in its sandbox, in which order, and which stage a failure belongs to.

* **Milestones** — the parts of a trial up to the tests track the milestones of each, which are read
  off its settings (`Trial.milestones`).
* **Tests** — a launch, then probes, then the collection of the output (`Terms.Runs`); how many
  probes there are depends on the process.
* **Whole** — so the conversation of a pipeline is one path along all of this
  (`Trial.Runs`), and there is only one (`Trial.Runs.unique`).
-/

namespace AgentTrial

open Routine

/-! ## The agent -/

namespace Agent

/-- The agent's session, and its install commands in order. -/
def milestones (config : AgentConfig) : List Milestone :=
  .call .agentInstalling (.session "agent" config.env.entries) (fun _ => true) ::
    config.installCommands.map fun command =>
      .call .agentInstalling (.run command (some "agent") .nohup config.installTimeout)
        (·.isSuccess)

theorem runInstall_tracks (limit : Duration) (commands : List String) :
    (runInstall limit commands).Tracks (fun _ => .agentInstalling)
      (commands.map fun command =>
        .call .agentInstalling (.run command (some "agent") .nohup limit) (·.isSuccess)) := by
  induction commands with
  | nil => exact .pure ()
  | cons command rest ih =>
      refine Tracks.after (.log _ _) fun _ => ?_
      refine Tracks.ask (fun _ => rfl) (fun out passed => ?_) fun out missed => ?_
      · rw [if_pos passed]
        exact ih
      · rw [if_neg (by simp [missed])]
        exact ⟨_, rfl, rfl⟩

theorem installation_tracks (config : AgentConfig) :
    (installation config).Tracks (fun _ => .agentInstalling) (milestones config) := by
  refine Tracks.ask (fun _ => rfl) (fun _ _ => ?_) fun _ missed => by cases missed
  exact (runInstall_tracks _ _).before fun _ => .log _ _

/-- The one run of the agent, whose exit code is nobody's business. -/
theorem launch_tracks (config : AgentConfig) (instruction : String) :
    (launch config instruction).Tracks (fun _ => .agentRunning)
      [.call .agentRunning (.run (config.command (config.prompt instruction)) (some "agent") .nohup
        config.runTimeout) fun _ => true] := by
  refine Tracks.after (.log _ _) fun _ => ?_
  refine Tracks.ask (fun _ => rfl) (fun out _ => ?_) fun _ missed => by cases missed
  exact Tracks.after (.log _ _) fun _ => .pure out

end Agent

/-! ## Setup and provisioning -/

theorem Trial.runSetup_tracks (session : String) (limit : Duration) (commands : List String) :
    (Trial.runSetup session limit commands).Tracks (fun _ => .provisioning)
      (commands.map fun command =>
        .call .provisioning (.run command (some session) .nohup limit) (·.isSuccess)) := by
  induction commands with
  | nil => exact .pure ()
  | cons command rest ih =>
      refine Tracks.ask (fun _ => rfl) (fun out passed => ?_) fun out missed => ?_
      · rw [if_pos passed]
        exact ih
      · rw [if_neg (by simp [missed])]
        exact ⟨_, rfl, rfl⟩

namespace Provision

/-- The scoring script, which needs a name. -/
def scriptMilestones (remoteDir script : String) : List Milestone :=
  [.check .provisioning (Path.fileName? script).isSome,
    .call .provisioning
      (.uploadFile (.file script) (remotePath remoteDir ((Path.fileName? script).getD "")))
      fun accepted => accepted]

/-- The test assets and the script, by the strategy. An archive has to be packed, once there is a
place for it. -/
def uploadMilestones (strategy : UploadStrategy) (session testDir : String) (packs : Bool)
    (packed : Archive) (remoteDir script : String) : List Milestone :=
  match strategy with
  | .directory =>
    .call .provisioning (.uploadDir testDir remoteDir) (fun code => code = (0 : Int)) ::
      scriptMilestones remoteDir script
  | .archive =>
    .call .provisioning (.run (makeDirCommand remoteDir) (some session) .normal stepLimit)
        (·.isSuccess) ::
      (scriptMilestones remoteDir script ++
        [.check .provisioning packs,
          .call .provisioning (.uploadFile (.archive packed) (remoteArchive remoteDir))
            fun accepted => accepted,
          .call .provisioning (.run (extractCommand remoteDir) (some session) .normal stepLimit)
            (·.isSuccess)])

/-- The two checks of the task's own files, and then the uploads. -/
def milestones (scratch : Scratch) (takesDirs : Bool) (fs : FileSystem) (strategy : UploadStrategy)
    (session testDir remoteDir script : String) : List Milestone :=
  let entries := (fs.directory? testDir).getD .nil
  .check .provisioning (fs.directory? testDir).isSome ::
    .check .provisioning (fs.isFile script) ::
    uploadMilestones (effective strategy takesDirs) session testDir
      (packing scratch testDir entries).isValue (archive testDir entries) remoteDir script

/-- The calls that bring a test directory, or what was packed of it, and a script in. -/
def calls (strategy : UploadStrategy) (session testDir : String) (packed : Archive)
    (remoteDir script : String) : List Call :=
  let upload := .uploadFile (.file script) (remotePath remoteDir ((Path.fileName? script).getD ""))
  match strategy with
  | .directory => [.uploadDir testDir remoteDir, upload]
  | .archive =>
    [.run (makeDirCommand remoteDir) (some session) .normal stepLimit,
      upload,
      .uploadFile (.archive packed) (remoteArchive remoteDir),
      .run (extractCommand remoteDir) (some session) .normal stepLimit]

theorem uploadMilestones_calls (strategy : UploadStrategy) (session testDir : String)
    (packs : Bool) (packed : Archive) (remoteDir script : String) :
    (uploadMilestones strategy session testDir packs packed remoteDir script).flatMap
        Milestone.calls =
      calls strategy session testDir packed remoteDir script := by
  cases strategy <;> rfl

theorem uploadScript_tracks (remoteDir script : String) :
    (uploadScript remoteDir script).Tracks (fun _ => .provisioning)
      (scriptMilestones remoteDir script) := by
  rw [uploadScript, scriptMilestones]
  cases Path.fileName? script with
  | none => exact .fail rfl _
  | some name =>
      refine Tracks.check ?_
      refine Tracks.ask (fun _ => rfl) (fun out passed => ?_)
        fun out missed => ?_
      · rw [if_pos passed]
        exact .log _ _
      · rw [if_neg (by simp [missed])]
        exact ⟨_, rfl, rfl⟩

theorem asDirectory_tracks (testDir remoteDir script session : String) (packs : Bool)
    (packed : Archive) :
    (asDirectory testDir remoteDir script).Tracks (fun _ => .provisioning)
      (uploadMilestones .directory session testDir packs packed remoteDir script) := by
  refine Tracks.ask (fun _ => rfl) (fun code passed => ?_)
    fun code missed => ?_
  · rw [if_pos (of_decide_eq_true passed)]
    exact uploadScript_tracks remoteDir script
  · rw [if_neg (of_decide_eq_false missed)]
    exact ⟨_, rfl, rfl⟩

theorem openRemote_tracks (session remoteDir script : String) :
    (openRemote session remoteDir script).Tracks (fun _ => .provisioning)
      (.call .provisioning (.run (makeDirCommand remoteDir) (some session) .normal stepLimit)
        (·.isSuccess) :: scriptMilestones remoteDir script) := by
  refine Tracks.ask (fun _ => rfl) (fun made passed => ?_) fun made missed => ?_
  · rw [if_pos passed]
    exact uploadScript_tracks remoteDir script
  · rw [if_neg (by simp [missed])]
    exact ⟨_, rfl, rfl⟩

theorem sendArchive_tracks (session remoteDir : String) (packed : Archive) :
    (sendArchive session remoteDir packed).Tracks (fun _ => .provisioning)
      [.call .provisioning (.uploadFile (.archive packed) (remoteArchive remoteDir))
          fun accepted => accepted,
        .call .provisioning (.run (extractCommand remoteDir) (some session) .normal stepLimit)
          (·.isSuccess)] := by
  refine Tracks.ask (fun _ => rfl) (fun accepted passed => ?_) fun accepted missed => ?_
  · rw [if_pos passed]
    refine Tracks.ask (fun _ => rfl) (fun out passed => ?_) fun out missed => ?_
    · rw [if_pos passed]
      exact .pure ()
    · rw [if_neg (by simp [missed])]
      exact ⟨_, rfl, rfl⟩
  · rw [if_neg (by simp [missed])]
    exact ⟨_, rfl, rfl⟩

/-- The directory is packed when there is a place for the archive, and nothing is sent of one that
cannot be packed. -/
theorem asArchive_tracks (scratch : Scratch) (session : String) (entries : FileSystem.Entries)
    (testDir remoteDir script : String) :
    (asArchive session (scratch.told (packing scratch testDir entries)) remoteDir script).Tracks
      (fun _ => .provisioning)
      (uploadMilestones .archive session testDir (packing scratch testDir entries).isValue
        (archive testDir entries) remoteDir script) := by
  refine (openRemote_tracks session remoteDir script).bind fun _ => ?_
  rcases scratch.told_packing testDir entries with ⟨told, packs⟩ | ⟨text, told, fails⟩
  · rw [told, packs]
    exact Tracks.check (sendArchive_tracks session remoteDir (archive testDir entries))
  · rw [told, fails]
    exact Tracks.fail rfl _

theorem provisioning_tracks (scratch : Scratch) (takesDirs : Bool) (fs : FileSystem)
    (strategy : UploadStrategy) (session testDir remoteDir script : String) :
    (provisioning scratch takesDirs fs strategy session testDir remoteDir script).Tracks
      (fun _ => .provisioning)
      (milestones scratch takesDirs fs strategy session testDir remoteDir script) := by
  rw [provisioning, milestones]
  cases fs.directory? testDir with
  | none => exact .fail rfl _
  | some entries =>
      refine Tracks.check ?_
      dsimp only
      cases fs.isFile script with
      | false => exact .fail rfl _
      | true =>
          refine Tracks.check ?_
          rw [if_pos rfl]
          refine Tracks.after (.logIf _ _ _) fun _ => Tracks.before ?_ fun _ => .log _ _
          cases effective strategy takesDirs with
          | directory => exact asDirectory_tracks testDir remoteDir script session _ _
          | archive => exact asArchive_tracks scratch session entries testDir remoteDir script

end Provision

/-! ## Up to the tests -/

namespace Trial

theorem inStage_tracks {ε α : Type} {stage : Stage} {toError : ε → TrialError} {r : Routine ε α}
    {ms : List Milestone} (h : r.Tracks (fun _ => stage) ms) :
    (inStage stage toError r).Tracks (·.stage) ms :=
  h.mapError fun _ => rfl

variable (trial : Trial) (takesDirs : Bool) (taskName : String) (task : Task)

/-- The milestones of a trial up to its tests. -/
def milestones : List Milestone :=
  .call .environmentStarting .start (fun _ => true) ::
    (Agent.milestones trial.agent ++
      (.call .agentRunning
          (.run (trial.agent.command (trial.agent.prompt task.instruction)) (some "agent") .nohup
            trial.agent.runTimeout) (fun _ => true) ::
        .call .provisioning (.session (sessionName taskName) trial.config.sessionEnv.entries)
          (fun _ => true) ::
        (trial.config.setupCommands.map (fun command =>
            .call .provisioning
              (.run command (some (sessionName taskName)) .nohup trial.config.setupTimeout)
              (·.isSuccess)) ++
          Provision.milestones (trial.scratch task.testsPath) takesDirs trial.fs
            trial.config.uploadStrategy (sessionName taskName) task.testsPath
            trial.config.remoteTestDir task.scriptPath)))

/-- The part of a pipeline up to the tests. -/
def preparation : Routine StageFailure Unit := do
  inStage .environmentStarting .sandbox (Routine.ask .start)
  inStage .agentInstalling .agent (Agent.installation trial.agent)
  let _ ← inStage .agentRunning .agent (Agent.launch trial.agent task.instruction)
  Routine.log .info .trial
  let session := sessionName taskName
  inStage .provisioning .sandbox
    (Routine.ask (.session session trial.config.sessionEnv.entries))
  inStage .provisioning id
    (runSetup session trial.config.setupTimeout trial.config.setupCommands)
  inStage .provisioning id (Provision.provisioning (trial.scratch task.testsPath) takesDirs trial.fs
    trial.config.uploadStrategy session task.testsPath trial.config.remoteTestDir task.scriptPath)

/-- The part of a pipeline from the tests on. -/
def scoring (session : String) : Routine StageFailure Verdict :=
  inStage .testExecuting id (trial.executeTests session task) >>= fun output =>
    readVerdict trial.config.verdict output

theorem pipeline_eq : trial.pipeline takesDirs taskName task =
    trial.preparation takesDirs taskName task >>= fun _ =>
      trial.scoring task (sessionName taskName) := by
  simp only [pipeline, preparation, scoring, Routine.bind_assoc]

theorem preparation_tracks :
    (trial.preparation takesDirs taskName task).Tracks (·.stage)
      (trial.milestones takesDirs taskName task) := by
  refine Tracks.ask (fun _ => rfl) (fun _ _ => ?_) fun _ missed => by cases missed
  refine (inStage_tracks (Agent.installation_tracks trial.agent)).bind fun _ => ?_
  refine (inStage_tracks (Agent.launch_tracks trial.agent task.instruction)).bind fun _ => ?_
  refine Tracks.after (.log _ _) fun _ => ?_
  refine Tracks.ask (fun _ => rfl) (fun _ _ => ?_) fun _ missed => by cases missed
  refine (inStage_tracks (runSetup_tracks _ _ _)).bind fun _ => ?_
  exact inStage_tracks (Provision.provisioning_tracks _ _ _ _ _ _ _ _)

/-! ## Tests -/

section Tests

variable {trial : Trial} {session : String} {σ : Type} {backend : Backend σ} {c : Course σ}

/-- The command that scores, by the name of the script. -/
def testCommand (trial : Trial) (script : String) : String :=
  scoringCommand (Path.trimSlashes trial.config.remoteTestDir) script

/-- Where the scoring script leaves its output. -/
def testOutput (trial : Trial) (session : String) : String :=
  outputPath (Path.trimSlashes trial.config.remoteTestDir) session

/-- Whenever the tests are launched the clock can show their deadline. -/
def Reached (trial : Trial) (session : String) (talk : List Exchange) : Prop :=
  ∀ x ∈ talk, ∀ command,
    x.call = trial.executor.launchCall command session (trial.testOutput session) →
      trial.executor.clock.reaches x.ended trial.config.testTimeoutSecs

theorem executeTests_nameless (session : String)
    (nameless : Path.fileName? task.scriptPath = none) :
    ∃ e, trial.executeTests session task = Routine.fail e := by
  unfold executeTests
  simp only [nameless]
  exact ⟨_, rfl⟩

/-- The tests are an execution, and they fail when it does. -/
theorem executeTests_told {script : String} (named : Path.fileName? task.scriptPath = some script)
    (calm : ∀ x ∈ (trial.executeTests session task).talk backend c, x.IsCalm)
    (reached : trial.Reached session ((trial.executeTests session task).talk backend c)) :
    Told (fun _ => .testExecuting)
      (trial.executor.Runs (trial.testCommand script) session trial.config.testTimeoutSecs
        (trial.testOutput session) ((trial.executeTests session task).talk backend c))
      ((trial.executeTests session task).perform backend c).1 := by
  unfold executeTests at calm reached ⊢
  simp only [named] at calm reached ⊢
  simp only [talk_bind, perform_bind, Routine.safely, talk_mapError, perform_mapError]
    at calm reached ⊢
  obtain ⟨result, ending, runs⟩ := trial.executor.execution_runs backend (trial.testCommand script)
    session trial.config.testTimeoutSecs (trial.testOutput session) c
    (fun x mem => calm x (List.mem_append_left _ mem))
    fun x mem => reached x (List.mem_append_left _ mem) _
  unfold testCommand testOutput at ending runs ⊢
  simp only [ending]
  cases result with
  | completed output => exact (List.append_nil _).symm ▸ runs
  | timedOut => exact (List.append_nil _).symm ▸ runs
  | dispatchError detail => exact (List.append_nil _).symm ▸ runs

theorem readVerdict_tracks (settings : VerdictSettings) (output : String) :
    (readVerdict settings output).Tracks (·.stage) [] := by
  refine Tracks.after (.logIf _ _ _) fun _ => ?_
  exact Tracks.after (.logIf _ _ _) fun _ => .pure _

end Tests

/-! ## Whole -/

/-- How the conversation of a trial may go before its sandbox is stopped, and the stage it fails in
if it does. -/
inductive Runs : List Exchange → Option Stage → Prop where
  | unprepared {talk : List Exchange} {stage : Stage}
      (missed : Walk (trial.milestones takesDirs taskName task) talk (some stage)) :
      Runs talk (some stage)
  | nameless {talk : List Exchange}
      (prepared : Walk (trial.milestones takesDirs taskName task) talk none)
      (nameless : Path.fileName? task.scriptPath = none) : Runs talk (some .testExecuting)
  | tested {talk rest : List Exchange} {fate : Option Stage} {script : String}
      (prepared : Walk (trial.milestones takesDirs taskName task) talk none)
      (named : Path.fileName? task.scriptPath = some script)
      (runs : trial.executor.Runs (trial.testCommand script) (sessionName taskName)
        trial.config.testTimeoutSecs (trial.testOutput (sessionName taskName)) rest fate) :
      Runs (talk ++ rest) fate

/-- The calls of a trial in which nothing fails: the start, the agent, the provisioning, the tests.
There are as many probes as the process takes. -/
def canonical (pid probes : Nat) : List Call :=
  [.start, .session "agent" trial.agent.env.entries] ++
  trial.agent.installCommands.map (fun command =>
    .run command (some "agent") .nohup trial.agent.installTimeout) ++
  [.run (trial.agent.command (trial.agent.prompt task.instruction)) (some "agent") .nohup
    trial.agent.runTimeout] ++
  [.session (sessionName taskName) trial.config.sessionEnv.entries] ++
  trial.config.setupCommands.map (fun command =>
    .run command (some (sessionName taskName)) .nohup trial.config.setupTimeout) ++
  Provision.calls (Provision.effective trial.config.uploadStrategy takesDirs) (sessionName taskName)
    task.testsPath (Provision.archive task.testsPath ((trial.fs.directory? task.testsPath).getD .nil))
    trial.config.remoteTestDir task.scriptPath ++
  trial.executor.calls (trial.testCommand ((Path.fileName? task.scriptPath).getD ""))
    (sessionName taskName) (trial.testOutput (sessionName taskName)) pid probes

theorem canonical_eq (pid probes : Nat) :
    trial.canonical takesDirs taskName task pid probes =
      (trial.milestones takesDirs taskName task).flatMap Milestone.calls ++
        trial.executor.calls (trial.testCommand ((Path.fileName? task.scriptPath).getD ""))
          (sessionName taskName) (trial.testOutput (sessionName taskName)) pid probes := by
  have each (commands : List String) (toCall : String → Call) :
      commands.flatMap (fun command => [toCall command]) = commands.map toCall := by
    rw [← List.map_eq_flatMap]
  simp only [canonical, milestones, Agent.milestones, Provision.milestones,
    Provision.uploadMilestones_calls, List.flatMap_cons, List.flatMap_append, List.flatMap_map,
    Milestone.calls, each, List.append_assoc, List.nil_append, List.cons_append]

section Whole

variable {trial takesDirs taskName task} {talk : List Exchange} {fate fate' : Option Stage}

theorem milestones_isFixed : ∀ m ∈ trial.milestones takesDirs taskName task, m.isFixed := by
  have uploads (packs : Bool) (packed : Provision.Archive) : ∀ m ∈ Provision.uploadMilestones
      (Provision.effective trial.config.uploadStrategy takesDirs) (sessionName taskName)
      task.testsPath packs packed trial.config.remoteTestDir task.scriptPath, m.isFixed := by
    cases Provision.effective trial.config.uploadStrategy takesDirs <;>
      simp [Provision.uploadMilestones, Provision.scriptMilestones, Milestone.isFixed]
  intro m mem
  simp only [milestones, Agent.milestones, Provision.milestones, List.mem_cons, List.mem_append,
    List.mem_map] at mem
  -- all but the uploads are read off the list itself
  rcases mem with rfl | (rfl | ⟨_, _, rfl⟩) | rfl | rfl | ⟨_, _, rfl⟩ | rfl | rfl | mem
  case inr.inr.inr.inr.inr.inr.inr => exact uploads _ _ m mem
  all_goals rfl

/-- What is said in a trial tells how far it went. -/
theorem Runs.unique (h : trial.Runs takesDirs taskName task talk fate)
    (h' : trial.Runs takesDirs taskName task talk fate') : fate = fate' := by
  generalize same : talk = talk' at h'
  cases h with
  | unprepared missed =>
      cases h' with
      | unprepared missed' => exact missed.unique_whole milestones_isFixed missed' same
      | nameless prepared' => cases missed.unique_whole milestones_isFixed prepared' same
      | tested prepared' =>
          -- the preparation is missed in one and passed in the other
          have ends := (List.append_nil _).trans same
          cases (missed.unique milestones_isFixed prepared' ends).2
  | nameless prepared nameless =>
      cases h' with
      | unprepared missed' => cases prepared.unique_whole milestones_isFixed missed' same
      | nameless prepared' => rfl
      | tested prepared' named' =>
          rw [nameless] at named'
          cases named'
  | tested prepared named runs =>
      cases h' with
      | unprepared missed' =>
          have ends := same.trans (List.append_nil _).symm
          cases (prepared.unique milestones_isFixed missed' ends).2
      | nameless prepared' nameless' =>
          rw [nameless'] at named
          cases named
      | tested prepared' named' runs' =>
          obtain rfl := Option.some.inj (named.symm.trans named')
          obtain ⟨rfl, -⟩ := prepared.unique milestones_isFixed prepared' same
          exact runs.unique runs' (List.append_cancel_left same)

/-- The calls of a trial are made in one order, and all of them unless it fails. -/
theorem Runs.calls (h : trial.Runs takesDirs taskName task talk fate) :
    ∃ pid probes, talk.map (·.call) <+: trial.canonical takesDirs taskName task pid probes ∧
      (fate = none →
        talk.map (·.call) = trial.canonical takesDirs taskName task pid probes) := by
  simp only [canonical_eq]
  cases h with
  | unprepared missed =>
      refine ⟨0, 0, ?_, fun whole => by cases whole⟩
      exact (missed.calls_prefix milestones_isFixed).trans (List.prefix_append _ _)
  | nameless prepared =>
      refine ⟨0, 0, ?_, fun whole => by cases whole⟩
      exact (prepared.calls_prefix milestones_isFixed).trans (List.prefix_append _ _)
  | tested prepared named runs =>
      obtain ⟨pid, probes, part, whole⟩ := runs.calls
      refine ⟨pid, probes, ?_, fun passed => ?_⟩
      · rw [List.map_append, prepared.calls_eq milestones_isFixed, named,
          List.prefix_append_right_inj]
        exact part
      · rw [List.map_append, prepared.calls_eq milestones_isFixed, named, whole passed]
        rfl

end Whole

theorem scoring_nameless {session : String} (nameless : Path.fileName? task.scriptPath = none)
    {σ : Type} (backend : Backend σ) (c : Course σ) :
    (trial.scoring task session).talk backend c = [] ∧
      ∃ e, ((trial.scoring task session).perform backend c).1 = .error e ∧
        e.stage = .testExecuting := by
  obtain ⟨e, failed⟩ := trial.executeTests_nameless task session nameless
  rw [scoring, failed]
  exact ⟨rfl, _, rfl, rfl⟩

theorem scoring_told {session script : String}
    (named : Path.fileName? task.scriptPath = some script)
    {σ : Type} (backend : Backend σ) (c : Course σ)
    (calm : ∀ x ∈ (trial.scoring task session).talk backend c, x.IsCalm)
    (reached : trial.Reached session ((trial.scoring task session).talk backend c)) :
    Told (·.stage)
      (trial.executor.Runs (trial.testCommand script) session trial.config.testTimeoutSecs
        (trial.testOutput session) ((trial.scoring task session).talk backend c))
      ((trial.scoring task session).perform backend c).1 := by
  rw [scoring] at calm reached ⊢
  obtain ⟨calmTests, calmReading⟩ := forall_talk_bind calm
  have reachedTests := (forall_talk_bind reached).1
  rw [inStage, talk_mapError] at calmTests reachedTests
  have tests := executeTests_told task named calmTests reachedTests
  refine Told.bind (tests.mapError fun _ => rfl) ?_ ?_
  · intro stage missed
    rw [inStage, talk_mapError]
    exact missed
  · -- nothing is said while the verdict is read
    intro output ending run
    obtain ⟨said, verdict, last⟩ := (readVerdict_tracks trial.config.verdict output).quiet backend
      _ (calmReading output ending)
    rw [said, last, List.append_nil, inStage, talk_mapError]
    exact run

/-- **Stages of a pipeline.** A pipeline without crashes goes one of the ways there are, and how it
ends tells how far it went. -/
theorem pipeline_told {σ : Type} (backend : Backend σ) (c : Course σ)
    (calm : ∀ x ∈ (trial.pipeline takesDirs taskName task).talk backend c, x.IsCalm)
    (reached : trial.Reached (sessionName taskName)
      ((trial.pipeline takesDirs taskName task).talk backend c)) :
    Told (·.stage)
      (trial.Runs takesDirs taskName task
        ((trial.pipeline takesDirs taskName task).talk backend c))
      ((trial.pipeline takesDirs taskName task).perform backend c).1 := by
  rw [pipeline_eq] at calm reached ⊢
  obtain ⟨calmBefore, calmTests⟩ := forall_talk_bind calm
  obtain ⟨-, reachedTests⟩ := forall_talk_bind reached
  have preparation := trial.preparation_tracks takesDirs taskName task σ backend c calmBefore
  refine Told.bind preparation (fun stage missed => .unprepared missed) ?_
  intro _ ending prepared
  cases named : Path.fileName? task.scriptPath with
  | none =>
      obtain ⟨said, e, last, stage⟩ := trial.scoring_nameless task named backend _
      rw [said, last, List.append_nil, Told, stage]
      exact .nameless prepared named
  | some script =>
      have tests := trial.scoring_told task named backend _ (calmTests _ ending)
        (reachedTests _ ending)
      exact tests.mono fun fate runs => .tested prepared named runs

end Trial

end AgentTrial
