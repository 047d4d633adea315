import AgentTrial.Proofs.Provision.Cleanup
import AgentTrial.Proofs.Provision.Strategies
import AgentTrial.Proofs.Shell.Layers
import AgentTrial.Proofs.Trial.Attribution

/-!
# From upload to execution

The scoring script is uploaded under one path and executed under another, its output is written to
one path and collected from another. Each is put together anew from the settings.

* **Commands** — what a call launches and what it prints is told by what the shell reads of its
  command (`Call.Launches`, `Call.Prints`), so it does not depend on how the command is written.
* **Parts** — up to the tests nothing is launched or printed, and where the preparation is done the
  script has been uploaded (`preparation_leaves`); in the tests one script is launched, with one file
  for its output (`scoring_delivers`).
* **Errors** — a script that is there has a name, so no pipeline fails for want of one
  (`pipeline_named`).
* **Whole** — the script that is launched is the one that was uploaded, and the output that is printed
  is the one it writes (`delivery`).
-/

namespace AgentTrial

open Routine

/-! ## Commands -/

namespace Call

/-- A call waits for a command that leaves `command` running by itself, with both of its outputs in
the file `output`. -/
def Launches (asked : Call) (command output : String) : Prop :=
  ∃ text session limit rest, asked = .run text session .normal limit ∧
    Shell.read? text = some
      (({ words := ["nohup", "sh", "-c", command].map .ofText
          stdin := .file (.ofText "/dev/null")
          stdout := .file (.ofText output)
          stderr := .file (.ofText output) }, .background) :: rest)

/-- A call waits for a command that prints the file `path`. -/
def Prints (asked : Call) (path : String) : Prop :=
  ∃ text session limit, asked = .run text session .normal limit ∧
    Shell.read? text = some [(.ofTexts ["cat", path], .last)]

/-- A call that launches and prints nothing. -/
structure IsQuiet (asked : Call) : Prop where
  launches : ∀ command output, ¬asked.Launches command output
  prints : ∀ path, ¬asked.Prints path

section Reading

variable {text command output path : String} {inSession : Option String} {limit : Duration}

theorem isQuiet_of_ne_run {asked : Call}
    (other : ∀ text inSession limit, asked ≠ .run text inSession .normal limit) : asked.IsQuiet where
  launches := fun _ _ ⟨text, inSession, limit, _, is, _⟩ => other text inSession limit is
  prints := fun _ ⟨text, inSession, limit, is, _⟩ => other text inSession limit is

/-- A command is quiet that leaves nothing running at its start and is not the printing of a file. -/
theorem isQuiet_of_read {commands : List (Shell.Command × Shell.Junction)}
    (reads : Shell.read? text = some commands)
    (noLaunch : ∀ first rest, commands ≠ (first, .background) :: rest)
    (noPrint : ∀ path, commands ≠ [(.ofTexts ["cat", path], .last)]) :
    IsQuiet (.run text inSession .normal limit) where
  launches := by
    rintro command output ⟨_, _, _, rest, is, read⟩
    cases is
    exact noLaunch _ rest (Option.some.inj (reads.symm.trans read))
  prints := by
    rintro path ⟨_, _, _, is, read⟩
    cases is
    exact noPrint path (Option.some.inj (reads.symm.trans read))

theorem isQuiet_makeDir (remoteDir : String) :
    IsQuiet (.run (Provision.makeDirCommand remoteDir) inSession .normal limit) :=
  isQuiet_of_read (Shell.read_makeDirCommand remoteDir) (by simp) (by simp [Shell.Command.ofTexts])

theorem isQuiet_extract (remoteDir : String) :
    IsQuiet (.run (Provision.extractCommand remoteDir) inSession .normal limit) :=
  isQuiet_of_read (Shell.read_extractCommand remoteDir) (by simp) (by simp)

theorem launches_dispatch {command' output' : String}
    (launches : Launches (.run (Execution.dispatchCommand command output) inSession .normal limit)
      command' output') : command' = command ∧ output' = output := by
  obtain ⟨_, _, _, _, is, read⟩ := launches
  cases is
  have same := (Shell.read_dispatchCommand command output).symm.trans read
  simp only [Option.some.injEq, List.cons.injEq, Prod.mk.injEq, Shell.Command.mk.injEq,
    Shell.Stream.file.injEq, List.map_cons] at same
  obtain ⟨⟨⟨⟨-, -, -, command, -⟩, -, output, -⟩, -⟩, -⟩ := same
  exact ⟨(Shell.Word.ofText_inj command).symm, (Shell.Word.ofText_inj output).symm⟩

theorem prints_collect
    (prints : Prints (.run (Execution.collectCommand output) inSession .normal limit) path) :
    path = output := by
  obtain ⟨_, _, _, is, read⟩ := prints
  cases is
  have same := (Shell.read_collectCommand output).symm.trans read
  simp only [Option.some.injEq, List.cons.injEq, Prod.mk.injEq, Shell.Command.ofTexts,
    Shell.Command.mk.injEq, List.map_cons] at same
  obtain ⟨⟨⟨⟨-, path, -⟩, -⟩, -⟩, -⟩ := same
  exact (Shell.Word.ofText_inj path).symm

theorem not_prints_dispatch :
    ¬Prints (.run (Execution.dispatchCommand command output) inSession .normal limit) path := by
  rintro ⟨_, _, _, is, read⟩
  cases is
  rw [Shell.read_dispatchCommand] at read
  cases read

theorem not_launches_collect {output' : String} :
    ¬Launches (.run (Execution.collectCommand output) inSession .normal limit) command output' := by
  rintro ⟨_, _, _, _, is, read⟩
  cases is
  rw [Shell.read_collectCommand] at read
  cases read

end Reading

end Call

/-! ## Parts -/

namespace Trial

section Parts

variable (trial : Trial) (takesDirs : Bool) (taskName : String) (task : Task)

/-- A call uploads no file but the scoring script, and that into the remote directory. -/
def UploadsScript (asked : Call) : Prop :=
  ∀ path remote, asked = .uploadFile (.file path) remote → path = task.scriptPath ∧
    ∃ name, Path.fileName? task.scriptPath = some name ∧
      remote = Provision.remotePath trial.config.remoteTestDir name

/-- What a call uploads, launches and prints. -/
structure Delivers (asked : Call) : Prop where
  uploads : trial.UploadsScript task asked
  launches : ∀ command output, asked.Launches command output →
    output = trial.testOutput (sessionName taskName) ∧
      ∃ name, Path.fileName? task.scriptPath = some name ∧ command = trial.testCommand name
  prints : ∀ path, asked.Prints path → path = trial.testOutput (sessionName taskName)

/-- The script has been uploaded under its name. -/
def Uploaded (x : Exchange) : Prop :=
  ∃ name, Path.fileName? task.scriptPath = some name ∧
    x.call = .uploadFile (.file task.scriptPath)
      (Provision.remotePath trial.config.remoteTestDir name) ∧ x.Succeeded

variable {trial task}

theorem Delivers.of_quiet {asked : Call} (uploads : trial.UploadsScript task asked)
    (quiet : asked.IsQuiet) : trial.Delivers taskName task asked where
  uploads := uploads
  launches := fun command output launches => absurd launches (quiet.launches command output)
  prints := fun path prints => absurd prints (quiet.prints path)

variable (trial task)

/-- Up to the tests nothing is launched or printed. -/
theorem preparation_quiet :
    (trial.preparation takesDirs taskName task).All fun
      | .call asked => trial.UploadsScript task asked ∧ asked.IsQuiet
      | _ => True := by
  have apart {asked : Call} (noUpload : ∀ path remote, asked ≠ .uploadFile (.file path) remote)
      (quiet : asked.IsQuiet) : trial.UploadsScript task asked ∧ asked.IsQuiet :=
    ⟨fun path remote is => absurd is (noUpload path remote), quiet⟩
  have other {asked : Call} (noUpload : ∀ path remote, asked ≠ .uploadFile (.file path) remote)
      (noRun : ∀ text inSession limit, asked ≠ .run text inSession .normal limit) :
      trial.UploadsScript task asked ∧ asked.IsQuiet :=
    apart noUpload (Call.isQuiet_of_ne_run noRun)
  refine All.bind (All.mapError _ (All.ask (other (by simp) (by simp)))) fun _ => ?_
  refine All.bind (All.mapError _ ?_) fun _ => ?_
  · exact Agent.installation_all (other (by simp) (by simp)) fun _ _ => other (by simp) (by simp)
  refine All.bind (All.mapError _ (Agent.launch_all (other (by simp) (by simp)))) fun _ => ?_
  refine (All.log _ _).bind fun _ => ?_
  refine All.bind (All.mapError _ (All.ask (other (by simp) (by simp)))) fun _ => ?_
  refine All.bind (All.mapError _ (runSetup_all fun _ _ => other (by simp) (by simp))) fun _ => ?_
  refine All.mapError _ (Provision.provisioning_all _ _ _ ?_ ?_ ?_ ?_ ?_)
  · exact other (by simp) (by simp)
  · exact apart (by simp) (Call.isQuiet_makeDir _)
  · intro name named
    refine ⟨?_, Call.isQuiet_of_ne_run (by simp)⟩
    rintro path remote is
    cases is
    exact ⟨rfl, name, named, rfl⟩
  · exact fun packed => other (by simp) (by simp)
  · exact apart (by simp) (Call.isQuiet_extract _)

/-- The tests launch the script, with its output in a file of their own, and print that file. -/
theorem scoring_delivers :
    (trial.scoring task (sessionName taskName)).All fun
      | .call asked => trial.Delivers taskName task asked
      | _ => True := by
  have noUpload {text inSession limit} :
      trial.UploadsScript task (.run text inSession .normal limit) := fun _ _ is => by cases is
  refine All.bind (All.mapError _ ?_) fun output => readVerdict_all _ output
  refine trial.executeTests_all _ task fun name named => ?_
  refine trial.executor.execution_all ?_ trivial (fun pid => ?_) ?_
  · refine ⟨noUpload, fun command output launches => ?_, fun path prints => ?_⟩
    · obtain ⟨rfl, rfl⟩ := Call.launches_dispatch launches
      exact ⟨rfl, name, named, rfl⟩
    · exact absurd prints Call.not_prints_dispatch
  · refine .of_quiet taskName (fun _ _ is => ?_) (Call.isQuiet_of_ne_run (by simp))
    cases is
  · refine ⟨noUpload, fun command output launches => ?_, fun path prints => ?_⟩
    · exact absurd launches Call.not_launches_collect
    · exact Call.prints_collect prints

/-- Where provisioning is done the script has been uploaded. -/
theorem provisioning_leaves (scratch : Provision.Scratch) (session : String) :
    (Provision.provisioning scratch takesDirs trial.fs trial.config.uploadStrategy session
      task.testsPath trial.config.remoteTestDir task.scriptPath).Proceeds
      (Leaves (trial.Uploaded task)) := by
  rw [Provision.provisioning]
  split
  · exact .leaves_fail _
  · rename_i entries tests
    split
    · rename_i isFile
      obtain ⟨name, named⟩ := Option.isSome_iff_exists.mp
        (FileSystem.fileName?_isSome_of_isFile isFile)
      refine .leaves_last fun _ => .leaves_first ?_
      unfold Provision.upload
      cases Provision.effective trial.config.uploadStrategy takesDirs with
      | directory =>
          refine ((Provision.asDirectory_attempts named).leaves ?_).leaves_mono
            fun x holds => ⟨name, named, holds⟩
          simp
      | archive =>
          refine .leaves_first (((Provision.openRemote_attempts named).leaves ?_).leaves_mono
            fun x holds => ⟨name, named, holds⟩)
          simp
    · exact .leaves_fail _

theorem preparation_leaves :
    (trial.preparation takesDirs taskName task).Proceeds (Leaves (trial.Uploaded task)) :=
  .leaves_last fun _ => .leaves_last fun _ => .leaves_last fun _ => .leaves_last fun _ =>
    .leaves_last fun _ => .leaves_last fun _ =>
      (trial.provisioning_leaves takesDirs task _ _).mapError _

end Parts

end Trial

/-! ## Errors -/

/-- An error tells of a script without a name. -/
def TrialError.Nameless (e : TrialError) : Prop :=
  e = .config "scoring script has no file name" ∨ e = .provision "scoring script has no file name"

theorem TrialError.not_nameless_provision {text : String}
    (other : text ≠ "scoring script has no file name") : ¬(provision text).Nameless := by
  simp [Nameless, other]

namespace Provision

variable {session testDir remoteDir script name : String}

theorem ask_named (asked : Call) : (ask asked).FailsWith (¬·.Nameless) :=
  .mapError _ fun _ _ _ e _ => by simp [TrialError.Nameless]

theorem uploadScript_named (named : Path.fileName? script = some name) :
    (uploadScript remoteDir script).FailsWith (¬·.Nameless) := by
  rw [uploadScript, named]
  refine (ask_named _).bind fun accepted => ?_
  split
  · exact .log _ _
  · exact .fail (TrialError.not_nameless_provision (by simp [toString, ← String.toList_inj]))

theorem asDirectory_named (named : Path.fileName? script = some name) :
    (asDirectory testDir remoteDir script).FailsWith (¬·.Nameless) := by
  refine (ask_named _).bind fun code => ?_
  split
  · exact uploadScript_named named
  · exact .fail (TrialError.not_nameless_provision (by simp [toString, ← String.toList_inj]))

theorem openRemote_named (named : Path.fileName? script = some name) :
    (openRemote session remoteDir script).FailsWith (¬·.Nameless) := by
  refine (ask_named _).bind fun made => ?_
  split
  · exact uploadScript_named named
  · exact .fail (TrialError.not_nameless_provision (by simp [toString, ← String.toList_inj]))

theorem sendArchive_named (packed : Archive) :
    (sendArchive session remoteDir packed).FailsWith (¬·.Nameless) := by
  refine (ask_named _).bind fun accepted => ?_
  split
  · refine (ask_named _).bind fun extracted => ?_
    split
    · exact .pure ()
    · exact .fail (TrialError.not_nameless_provision (by simp [toString, ← String.toList_inj]))
  · exact .fail (TrialError.not_nameless_provision (by simp [toString, ← String.toList_inj]))

theorem told_named (scratch : Scratch) (ending : Ending String Archive) :
    (Routine.ended (scratch.told ending)).FailsWith (¬·.Nameless) := by
  cases ending with
  | value packed => exact .pure packed
  | error e =>
      exact .fail (TrialError.not_nameless_provision (by simp [toString, ← String.toList_inj]))
  | crash p =>
      exact .fail (TrialError.not_nameless_provision (by simp [toString, ← String.toList_inj]))

/-- The script is looked for before its name is asked for. -/
theorem provisioning_named (scratch : Scratch) (takesDirs : Bool) (fs : FileSystem)
    (strategy : UploadStrategy) :
    (provisioning scratch takesDirs fs strategy session testDir remoteDir script).FailsWith
      (¬·.Nameless) := by
  rw [provisioning]
  split
  · exact .fail (TrialError.not_nameless_provision (by simp [toString, ← String.toList_inj]))
  · split
    · rename_i isFile
      obtain ⟨name, named⟩ := Option.isSome_iff_exists.mp
        (FileSystem.fileName?_isSome_of_isFile isFile)
      refine (FailsWith.logIf _ _ _).bind fun _ => .bind ?_ fun _ => .log _ _
      cases effective strategy takesDirs with
      | directory => exact asDirectory_named named
      | archive =>
          exact (openRemote_named named).bind fun _ =>
            (told_named scratch _).bind sendArchive_named
    · exact .fail (TrialError.not_nameless_provision (by simp [toString, ← String.toList_inj]))

end Provision

namespace Trial

section Named

variable (trial : Trial) (takesDirs : Bool) (taskName : String) (task : Task)

theorem runSetup_named (session : String) (limit : Duration) (commands : List String) :
    (runSetup session limit commands).FailsWith (¬·.Nameless) := by
  induction commands with
  | nil => exact .pure ()
  | cons command rest ih =>
      refine (Provision.ask_named _).bind fun out => ?_
      split
      · exact ih
      · exact .fail (TrialError.not_nameless_provision (by simp [toString, ← String.toList_inj]))

/-- A failure of any stage that is told by an error of the sandbox or of the agent. -/
theorem preparation_named :
    (trial.preparation takesDirs taskName task).FailsWith (¬·.error.Nameless) := by
  have sandbox (e : SandboxError) : ¬(TrialError.sandbox e).Nameless := by simp [TrialError.Nameless]
  have agent (e : AgentError) : ¬(TrialError.agent e).Nameless := by simp [TrialError.Nameless]
  refine FailsWith.bind (.mapError _ fun _ _ _ e _ => sandbox e) fun _ => ?_
  refine FailsWith.bind (.mapError _ fun _ _ _ e _ => agent e) fun _ => ?_
  refine FailsWith.bind (.mapError _ fun _ _ _ e _ => agent e) fun _ => ?_
  refine (FailsWith.log _ _).bind fun _ => ?_
  refine FailsWith.bind (.mapError _ fun _ _ _ e _ => sandbox e) fun _ => ?_
  refine FailsWith.bind (.mapError _ (runSetup_named _ _ _)) fun _ => ?_
  exact .mapError _ (Provision.provisioning_named _ _ _ _)

theorem scoring_named {name : String} (named : Path.fileName? task.scriptPath = some name)
    (session : String) : (trial.scoring task session).FailsWith (¬·.error.Nameless) := by
  refine .bind (.mapError _ ?_) fun output => ?_
  · rw [executeTests, named]
    refine (FailsWith.safely _).bind fun result => ?_
    cases result with
    | completed output => exact .pure output
    | timedOut => exact (FailsWith.log _ _).bind fun _ => .fail (by simp [TrialError.Nameless])
    | dispatchError detail => exact .fail (by simp [TrialError.Nameless])
  · exact (FailsWith.logIf _ _ _).bind fun _ =>
      (FailsWith.logIf _ _ _).bind fun _ => .pure _

/-- **Errors.** No pipeline fails for want of a name: where the script has none it is not there, and
the tests are not begun. -/
theorem pipeline_named :
    (trial.pipeline takesDirs taskName task).FailsWith (¬·.error.Nameless) := by
  rw [pipeline_eq]
  refine (trial.preparation_named takesDirs taskName task).bind_of_value ?_
  intro σ backend c _ done
  -- the tests ask for the name too, and are begun only where the script has been uploaded under it
  have left := trial.preparation_leaves takesDirs taskName task σ backend c
  rw [done] at left
  obtain ⟨x, -, name, named, -⟩ := left rfl
  exact trial.scoring_named task named _

end Named

/-! ## Whole -/

/-- The script that is launched lies in the remote directory under its name, and it has been uploaded
to there; its output goes to a file beside it, and nothing else is printed. -/
structure Delivered (trial : Trial) (task : Task) (said before : List Exchange)
    (command output name file : String) : Prop where
  named : Path.fileName? task.scriptPath = some name
  isName : Path.IsName name
  isFile : Path.IsName file
  safe : ∀ c ∈ file.toList, c.isAlphanum = true ∨ c ∈ ['-', '_', '.']
  runs : Shell.read? command = some
    [(.ofTexts ["bash", Path.trimSlashes trial.config.remoteTestDir ++ "/" ++ name], .last)]
  writes : output = Path.trimSlashes trial.config.remoteTestDir ++ "/" ++ file
  uploaded : ∃ y ∈ before, y.call = .uploadFile (.file task.scriptPath)
    (Path.trimSlashes trial.config.remoteTestDir ++ "/" ++ name) ∧ y.Succeeded
  /-- Nothing else is uploaded as a file. -/
  uploads : ∀ y ∈ said, ∀ path remote, y.call = .uploadFile (.file path) remote →
    path = task.scriptPath ∧ remote = Path.trimSlashes trial.config.remoteTestDir ++ "/" ++ name
  prints : ∀ y ∈ said, ∀ path, y.call.Prints path → path = output

section Whole

variable {σ : Type} {trial : Trial} {taskName : String} {task : Task}

theorem isNameSafe_iff (c : Char) :
    isNameSafe c = true ↔ c.isAlphanum = true ∨ c ∈ ['-', '_', '.'] := by
  have alphanumeric : Shell.isAlphanumeric c = c.isAlphanum := by
    have upper : (decide ('A' ≤ c) && decide (c ≤ 'Z')) = c.isUpper := (Bool.decide_and ..).symm
    change (c.isLower || (decide ('A' ≤ c) && decide (c ≤ 'Z')) || c.isDigit) =
      (c.isUpper || c.isLower || c.isDigit)
    rw [upper, Bool.or_comm c.isLower]
  simp only [isNameSafe, alphanumeric, Bool.or_eq_true, beq_iff_eq, List.mem_cons,
    List.not_mem_nil, or_false, or_assoc]

/-- The name of the file for the output of a task. -/
def outputName (taskName : String) : String := sessionName taskName ++ ".out"

theorem testOutput_eq : trial.testOutput (sessionName taskName) =
    Path.trimSlashes trial.config.remoteTestDir ++ "/" ++ outputName taskName := by
  simp only [testOutput, outputPath, Path.trimSlashes_trimSlashes, outputName, String.append_assoc]

theorem isNameSafe_of_mem_outputName :
    ∀ c ∈ (outputName taskName).toList, isNameSafe c = true := by
  intro c mem
  simp only [outputName, sessionName, String.toList_append, String.toList_map, List.mem_append,
    List.mem_map] at mem
  rcases mem with (front | ⟨d, -, rfl⟩) | back
  · exact List.all_eq_true.mp (by decide) c front
  · split
    · assumption
    · decide
  · exact List.all_eq_true.mp (by decide) c back

theorem isName_outputName : Path.IsName (outputName taskName) := by
  have slash : '/' ∉ (outputName taskName).toList := fun mem =>
    absurd (isNameSafe_of_mem_outputName '/' mem) (by decide)
  refine ⟨?_, ?_, ?_, slash⟩ <;> simp [outputName, sessionName, ← String.toList_inj]

/-- What a pipeline says is said in its preparation, or in its tests after all of that. -/
theorem exists_tests (trial : Trial) (takesDirs : Bool) (taskName : String) (task : Task)
    (backend : Backend σ) (c : Course σ) :
    ∃ tests, (trial.pipeline takesDirs taskName task).talk backend c =
        (trial.preparation takesDirs taskName task).talk backend c ++ tests ∧
      (∀ x ∈ tests, trial.Delivers taskName task x.call) ∧
      (tests ≠ [] → ∃ y ∈ (trial.preparation takesDirs taskName task).talk backend c,
        trial.Uploaded task y) := by
  rw [pipeline_eq, talk_bind]
  refine ⟨_, rfl, ?_, ?_⟩
  · intro x mem
    split at mem
    · exact (trial.scoring_delivers taskName task).talk backend _ x mem
    · exact absurd mem List.not_mem_nil
  · intro some
    split at some
    · rename_i done
      have left := trial.preparation_leaves takesDirs taskName task σ backend c
      rw [done] at left
      exact left rfl
    · exact absurd rfl some

/-- A launch is made after all of the preparation. -/
theorem launched_after {prepared tests before after : List Exchange} {x : Exchange}
    {command output : String} (place : prepared ++ tests = before ++ x :: after)
    (quiet : ∀ y ∈ prepared, y.call.IsQuiet) (launches : x.call.Launches command output) :
    x ∈ tests ∧ ∀ y ∈ prepared, y ∈ before := by
  -- the launch stands behind the cut, right behind it, or before it, where nothing is launched
  rcases List.append_eq_append_iff.mp place with ⟨more, rfl, rfl⟩ | ⟨more, rfl, tail⟩
  · exact ⟨by simp, fun y mem => List.mem_append_left _ mem⟩
  · cases more with
    | nil =>
        rw [List.nil_append] at tail
        exact ⟨tail ▸ List.mem_cons_self, fun y mem => by simpa using mem⟩
    | cons y more =>
        obtain ⟨rfl, -⟩ := List.cons.inj tail
        exact absurd launches ((quiet x (by simp)).launches command output)

/-- **Whole.** For all settings, every task and name, every sandbox and whatever becomes of the
calls, at every place of the conversation of a pipeline where a command is launched with its output
in a file:

* the command is read as `bash` and the path of the script, and the script has been uploaded to that
  very path before;
* every command that prints a file prints that output;
* both lie in the remote directory, without the slashes at its end, under names of their own, and the
  name of the output is of ASCII letters, digits, dashes, underscores and dots;

and no pipeline fails because the script has no name. -/
theorem delivery (trial : Trial) (takesDirs : Bool) (taskName : String) (task : Task)
    (backend : Backend σ) (c : Course σ) :
    let said := (trial.pipeline takesDirs taskName task).talk backend c
    (∀ before x after command output, said = before ++ x :: after →
      x.call.Launches command output →
        ∃ name file, trial.Delivered task said before command output name file) ∧
    ∀ failure, ((trial.pipeline takesDirs taskName task).perform backend c).1 = .error failure →
      ¬failure.error.Nameless := by
  intro said
  refine ⟨?_, fun failure => trial.pipeline_named takesDirs taskName task σ backend c failure⟩
  intro before x after command output place launches
  obtain ⟨tests, whole, scores, left⟩ := exists_tests trial takesDirs taskName task backend c
  have prepares := (trial.preparation_quiet takesDirs taskName task).talk backend c
  obtain ⟨tested, earlier⟩ := launched_after (whole.symm.trans place)
    (fun y mem => (prepares y mem).2) launches
  have delivers : ∀ y ∈ said, trial.Delivers taskName task y.call := by
    intro y mem
    have parted : y ∈ (trial.preparation takesDirs taskName task).talk backend c ++ tests := by
      rw [← whole]
      exact mem
    rcases List.mem_append.mp parted with mem | mem
    · exact .of_quiet taskName (prepares y mem).1 (prepares y mem).2
    · exact scores y mem
  -- the name is asked for twice, for the upload and for the launch, and it is the same
  obtain ⟨rfl, name, named, rfl⟩ := (scores x tested).launches command output launches
  obtain ⟨y, prepared, name', named', is, succeeded⟩ := left (List.ne_nil_of_mem tested)
  obtain rfl := Option.some.inj (named.symm.trans named')
  refine ⟨name, outputName taskName, {
    named := named
    isName := Provision.isName_of_fileName? named
    isFile := isName_outputName
    safe := fun c mem => (isNameSafe_iff c).mp (isNameSafe_of_mem_outputName c mem)
    runs := ?_
    writes := testOutput_eq
    uploaded := ⟨y, earlier y prepared, is, succeeded⟩
    uploads := ?_
    prints := fun y mem path => (delivers y mem).prints path }⟩
  · have reads := Shell.read_scoringCommand (Path.trimSlashes trial.config.remoteTestDir) name
    rwa [Path.trimSlashes_trimSlashes] at reads
  · intro y mem path remote is
    obtain ⟨same, name', named', there⟩ := (delivers y mem).uploads path remote is
    obtain rfl := Option.some.inj (named.symm.trans named')
    exact ⟨same, there⟩

end Whole

/-- A trial whose remote directory has a quote and a blank in it and two slashes at its end. -/
def elsewhere : Trial := { plain with config := { remoteTestDir := "/it's here//" } }

/-- A task whose script is named by a detour. -/
def detour : Task := ⟨"mend it", "a/tests", "a/./tests/../run-tests.sh"⟩

theorem delivery_elsewhere :
    let said := (elsewhere.pipeline true "a/ü" detour).talk obliging (.begin ())
    let command := "bash '/it'\\''s here/run-tests.sh'"
    let output := "/it's here/swe-eval-a--.out"
    (∃ y ∈ said, y.call.Prints output) ∧
      ∃ before x after, said = before ++ x :: after ∧ x.call.Launches command output ∧
        ∃ name file, elsewhere.Delivered detour said before command output name file := by
  intro said command output
  have printed : Call.run (Execution.collectCommand output) (some "swe-eval-a--") .normal
      (.ofSecs 60) ∈ said.map (·.call) := by
    decide +kernel
  obtain ⟨y, told, prints⟩ := List.mem_map.mp printed
  have launched : Call.run (Execution.dispatchCommand command output) (some "swe-eval-a--") .normal
      (.ofSecs 60) ∈ said.map (·.call) := by
    decide +kernel
  obtain ⟨x, mem, is⟩ := List.mem_map.mp launched
  obtain ⟨before, after, place⟩ := List.append_of_mem mem
  have launches : x.call.Launches command output :=
    ⟨_, _, _, _, is, Shell.read_dispatchCommand command output⟩
  have delivered := (delivery elsewhere true "a/ü" detour obliging (.begin ())).1 before x after
    command output place launches
  exact ⟨⟨y, told, _, _, _, prints, Shell.read_collectCommand output⟩, before, x, after, place,
    launches, delivered⟩

end Trial

end AgentTrial
