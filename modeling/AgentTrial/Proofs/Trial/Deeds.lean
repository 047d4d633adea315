import AgentTrial.Trial
import AgentTrial.Proofs.Routine.Perform

/-!
# What a pipeline may come to

What holds of everything that a part of a trial may come to, whatever the sandbox answers, is shown
part by part, in the order of the parts: it has to hold of the calls that the part is made of.

* **Parts** — each part has one lemma for all properties (`Agent.installation_all`,
  `Provision.provisioning_all`, `Trial.executeTests_all` and so on).
* **Deeds** — so the part of a trial inside its sandbox never stops the sandbox, never releases its
  guard, and asks for one length of deadline only, by its own clock (`pipeline_permitted`).
-/

namespace AgentTrial

open Routine

/-! ## The agent -/

namespace Agent

variable {P : Deed → Prop} {limit : Duration} {config : AgentConfig}

theorem runDetached_all {command : String}
    (runs : P (.call (.run command (some sessionName) .nohup limit))) :
    (runDetached command limit).All P :=
  (All.ask runs).mapError _

theorem runInstall_all {commands : List String}
    (runs : ∀ command ∈ commands, P (.call (.run command (some sessionName) .nohup limit))) :
    (runInstall limit commands).All P := by
  induction commands with
  | nil => exact All.pure ()
  | cons command rest ih =>
      obtain ⟨first, others⟩ := List.forall_mem_cons.mp runs
      refine (All.log _ _).bind fun _ => ?_
      refine (runDetached_all first).bind fun out => ?_
      split
      · exact ih others
      · exact All.fail _

theorem installation_all (opens : P (.call (.session sessionName config.env.entries)))
    (runs : ∀ command ∈ config.installCommands,
      P (.call (.run command (some sessionName) .nohup config.installTimeout))) :
    (installation config).All P := by
  refine ((All.ask opens).mapError _).bind fun _ => ?_
  exact (runInstall_all runs).bind fun _ => All.log _ _

theorem launch_all {instruction : String}
    (runs : P (.call (.run (config.command (config.prompt instruction)) (some sessionName) .nohup
      config.runTimeout))) : (launch config instruction).All P := by
  refine (All.log _ _).bind fun _ => ?_
  exact (runDetached_all runs).bind fun out => (All.log _ _).bind fun _ => All.pure out

end Agent

/-! ## Setup and provisioning -/

theorem Trial.runSetup_all {P : Deed → Prop} {session : String} {limit : Duration}
    {commands : List String}
    (runs : ∀ command ∈ commands, P (.call (.run command (some session) .nohup limit))) :
    (runSetup session limit commands).All P := by
  induction commands with
  | nil => exact All.pure ()
  | cons command rest ih =>
      obtain ⟨first, others⟩ := List.forall_mem_cons.mp runs
      refine ((All.ask first).mapError _).bind fun out => ?_
      split
      · exact ih others
      · exact All.fail _

namespace Provision

variable {P : Deed → Prop} {session testDir remoteDir script : String}

theorem uploadScript_all
    (scripts : ∀ name, Path.fileName? script = some name →
      P (.call (.uploadFile (.file script) (remotePath remoteDir name)))) :
    (uploadScript remoteDir script).All P := by
  rw [uploadScript]
  split
  · exact All.fail _
  · refine ((All.ask (scripts _ ‹_›)).mapError _).bind fun accepted => ?_
    split
    · exact All.log _ _
    · exact All.fail _

theorem asDirectory_all (dirs : P (.call (.uploadDir testDir remoteDir)))
    (scripts : ∀ name, Path.fileName? script = some name →
      P (.call (.uploadFile (.file script) (remotePath remoteDir name)))) :
    (asDirectory testDir remoteDir script).All P := by
  refine ((All.ask dirs).mapError _).bind fun code => ?_
  split
  · exact uploadScript_all scripts
  · exact All.fail _

theorem openRemote_all
    (makes : P (.call (.run (makeDirCommand remoteDir) (some session) .normal stepLimit)))
    (scripts : ∀ name, Path.fileName? script = some name →
      P (.call (.uploadFile (.file script) (remotePath remoteDir name)))) :
    (openRemote session remoteDir script).All P := by
  refine ((All.ask makes).mapError _).bind fun made => ?_
  split
  · exact uploadScript_all scripts
  · exact All.fail _

theorem sendArchive_all {packed : Archive}
    (archives : P (.call (.uploadFile (.archive packed) (remoteArchive remoteDir))))
    (extracts : P (.call (.run (extractCommand remoteDir) (some session) .normal stepLimit))) :
    (sendArchive session remoteDir packed).All P := by
  refine ((All.ask archives).mapError _).bind fun accepted => ?_
  split
  · refine ((All.ask extracts).mapError _).bind fun extracted => ?_
    split
    · exact All.pure ()
    · exact All.fail _
  · exact All.fail _

theorem asArchive_all {packing : Ending TrialError Archive}
    (makes : P (.call (.run (makeDirCommand remoteDir) (some session) .normal stepLimit)))
    (scripts : ∀ name, Path.fileName? script = some name →
      P (.call (.uploadFile (.file script) (remotePath remoteDir name))))
    (archives : ∀ packed, packing = .value packed →
      P (.call (.uploadFile (.archive packed) (remoteArchive remoteDir))))
    (extracts : P (.call (.run (extractCommand remoteDir) (some session) .normal stepLimit))) :
    (asArchive session packing remoteDir script).All P := by
  refine (openRemote_all makes scripts).bind fun _ => ?_
  cases packing with
  | value packed => exact sendArchive_all (archives packed rfl) extracts
  | error e => exact All.fail e
  | crash p => trivial

theorem provisioning_all {fs : FileSystem} (scratch : Scratch) (takesDirs : Bool)
    (strategy : UploadStrategy)
    (dirs : P (.call (.uploadDir testDir remoteDir)))
    (makes : P (.call (.run (makeDirCommand remoteDir) (some session) .normal stepLimit)))
    (scripts : ∀ name, Path.fileName? script = some name →
      P (.call (.uploadFile (.file script) (remotePath remoteDir name))))
    (archives : ∀ packed, P (.call (.uploadFile (.archive packed) (remoteArchive remoteDir))))
    (extracts : P (.call (.run (extractCommand remoteDir) (some session) .normal stepLimit))) :
    (provisioning scratch takesDirs fs strategy session testDir remoteDir script).All P := by
  rw [provisioning]
  split
  · exact All.fail _
  · split
    · refine (All.logIf _ _ _).bind fun _ => ?_
      refine All.bind ?_ fun _ => All.log _ _
      cases effective strategy takesDirs with
      | directory => exact asDirectory_all dirs scripts
      | archive => exact asArchive_all makes scripts (fun packed _ => archives packed) extracts
    · exact All.fail _

end Provision

/-! ## The tests -/

namespace Execution.Executor

variable (executor : Executor)

/-- Polling comes to nothing but its probe. -/
theorem poll_all {P : Deed → Prop} {probe session : String} (h : P (.call (.probe probe session)))
    (remaining : Nat) : (executor.poll probe session remaining).All P := by
  fun_induction executor.poll probe session remaining with
  | case1 remaining ih =>
      refine ⟨h, fun elapsed ending => ?_⟩
      dsimp only
      cases Sign.of ending with
      | error p => trivial
      | ok sign =>
          cases sign with
          | gone => trivial
          | alive | unclear =>
            refine (All.logIf _ _ _).bind fun _ => ?_
            split
            · exact (All.log _ _).bind fun _ => All.pure false
            · exact ih _ (by omega)

theorem collect_all {P : Deed → Prop} {session outputPath : String}
    (collects : P (.call (.run (collectCommand outputPath) (some session) .normal
      executor.dispatchLimit))) :
    (executor.collect session outputPath : Routine Empty Result).All P := by
  refine (All.request collects).bind fun answer => ?_
  cases answer with
  | error e => exact All.pure _
  | ok out =>
      dsimp only
      split
      · exact All.pure _
      · exact All.pure _

/-- An execution comes to a launch, the deadline it is given, probes of one process, and the
collection of its output. -/
theorem execution_all {P : Deed → Prop} {command session : String} {timeoutSecs : Nat}
    {outputPath : String}
    (launches : P (.call (.run (dispatchCommand command outputPath) (some session) .normal
      executor.dispatchLimit)))
    (deadline : P (.deadline executor.clock timeoutSecs))
    (probes : ∀ pid, P (.call (.probe (probeCommand pid) session)))
    (collects : P (.call (.run (collectCommand outputPath) (some session) .normal
      executor.dispatchLimit))) :
    (executor.execution command session timeoutSecs outputPath).All P := by
  refine (All.log _ _).bind fun _ => ?_
  refine (All.request launches).bind fun response => ?_
  cases response with
  | error e => exact All.pure _
  | ok response =>
      dsimp only
      split
      · exact (All.log _ _).bind fun _ => All.pure _
      · refine (All.log _ _).bind fun _ => ⟨deadline, fun told => ?_⟩
        cases told with
        | false => trivial
        | true =>
            refine (executor.poll_all (probes _) _).bind fun gone => ?_
            cases gone with
            | false => exact All.pure _
            | true => exact (All.log _ _).bind fun _ => executor.collect_all collects

theorem second_paced : 0 < 1000 := by decide

/-- An executor that pauses a second, on a machine that has been up for an hour. -/
def hourly : Executor := { clock := ⟨3600000⟩, paced := second_paced }

end Execution.Executor

/-! ## The pipeline -/

namespace Trial

variable (trial : Trial)

/-- Tests come to what their execution does, if the script has a name. -/
theorem executeTests_all {P : Deed → Prop} (session : String) (task : Task)
    (execution : ∀ script, Path.fileName? task.scriptPath = some script →
      let remoteDir := Path.trimSlashes trial.config.remoteTestDir
      (trial.executor.execution (scoringCommand remoteDir script) session
        trial.config.testTimeoutSecs (outputPath remoteDir session)).All P) :
    (trial.executeTests session task).All P := by
  rw [executeTests]
  split
  · exact All.fail _
  · refine ((execution _ ‹_›).mapError _).bind fun result => ?_
    cases result with
    | completed output => exact All.pure output
    | timedOut => exact (All.log _ _).bind fun _ => All.fail _
    | dispatchError detail => exact All.fail _

theorem readVerdict_all {P : Deed → Prop} (settings : VerdictSettings) (output : String) :
    (readVerdict settings output).All P :=
  (All.logIf _ _ _).bind fun _ => (All.logIf _ _ _).bind fun _ => All.pure _

end Trial

/-! ## Deeds -/

/-- What a pipeline with tests of so many seconds by a clock may come to. -/
def Deed.Permitted (clock : Clock) (testSecs : Nat) : Deed → Prop
  | .call asked => asked ≠ .stop
  | .deadline told secs => told = clock ∧ secs = testSecs
  | .release => False

/-- Any call but the stop is permitted. -/
theorem Routine.ask_permitted {asked : Call} {clock : Clock} {testSecs : Nat} (h : asked ≠ .stop) :
    (ask asked).All (Deed.Permitted clock testSecs) :=
  All.ask (P := Deed.Permitted clock testSecs) h

/-- **Deeds of a pipeline.** No stop, no release, and no deadline but that of the tests. -/
theorem Trial.pipeline_permitted (trial : Trial) (takesDirs : Bool) (taskName : String)
    (task : Task) :
    (trial.pipeline takesDirs taskName task).All
      (Deed.Permitted trial.executor.clock trial.config.testTimeoutSecs) := by
  have other {asked : Call} (noStop : asked ≠ .stop) :
      Deed.Permitted trial.executor.clock trial.config.testTimeoutSecs (.call asked) := noStop
  refine ((ask_permitted (by simp)).mapError _).bind fun _ => ?_
  refine All.bind (All.mapError _ ?_) fun _ => ?_
  · exact Agent.installation_all (other (by simp)) fun _ _ => other (by simp)
  refine All.bind (All.mapError _ (Agent.launch_all (other (by simp)))) fun _ => ?_
  refine (All.log _ _).bind fun _ => ?_
  refine ((ask_permitted (by simp)).mapError _).bind fun _ => ?_
  refine All.bind (All.mapError _ (runSetup_all fun _ _ => other (by simp))) fun _ => ?_
  refine All.bind (All.mapError _ ?_) fun _ => ?_
  · exact Provision.provisioning_all _ _ _ (other (by simp)) (other (by simp))
      (fun _ _ => other (by simp)) (fun _ => other (by simp)) (other (by simp))
  refine All.bind (All.mapError _ ?_) fun output => readVerdict_all _ output
  refine trial.executeTests_all _ task fun script _ => ?_
  exact trial.executor.execution_all (other (by simp)) ⟨rfl, rfl⟩ (fun pid => other (by simp))
    (other (by simp))

end AgentTrial
