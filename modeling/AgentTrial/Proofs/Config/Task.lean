import AgentTrial.Config.Load
import AgentTrial.Proofs.FileSystem.Lookup
import AgentTrial.Proofs.Text.Utf8

/-!
# Reading task directories

What comes of a task directory, whatever lies in it.

* **Ways** — a directory is read in one of five ways, each with its outcome in full (`load_reads`,
  `Reads.unique`).
* **Outcomes** — so a task is one with an instruction that is not blank, at the paths that the
  settings say, and everything else is an error of the configuration, save for one case: a task file
  whose bytes are no text is an error of input and output (`load_outcomes`, `garbled_task`).
-/

namespace AgentTrial

/-- The bytes of a file are no text. -/
def FileSystem.Garbled (fs : FileSystem) (path : String) : Prop :=
  ∃ content, fs.node? path = .ok (.file content) ∧ ∀ text, content ≠ Text.Utf8.encode text

/-- A file holds a text, of which a decoder makes something or nothing. -/
def FileSystem.Decodes {α : Type} (fs : FileSystem) (path : String) (decode : Yaml.Decoder α)
    (made : Option α) : Prop :=
  ∃ text, fs.node? path = .ok (.ofText text) ∧ Yaml.decode? decode text = made

namespace Task

/-- A task whose instruction is more than blanks, at the paths that the settings say. -/
structure IsAt (config : HarnessConfig) (dir : String) (task : Task) : Prop where
  filled : ∃ c ∈ task.instruction.toList, Text.isBlank c = false
  testsPath : task.testsPath = Path.join dir config.testsDir
  scriptPath : task.scriptPath = Path.join dir config.scoringScript

/-! ## Ways -/

section Ways

variable (fs : FileSystem) (config : HarnessConfig) (dir : String)

/-- What comes of a task directory. -/
inductive Reads : Except TrialError Task → Prop
  | missing (missing : ∀ content, fs.node? (Path.join dir config.taskFile) ≠ .ok (.file content)) :
      Reads (.error (.config s!"{config.taskFile} not found in {dir}"))
  | garbled (garbled : fs.Garbled (Path.join dir config.taskFile)) :
      Reads (.error (.io .notText))
  | malformed (decodes : fs.Decodes (Path.join dir config.taskFile) decodeInstruction none) :
      Reads (.error (.config s!"Invalid {Path.join dir config.taskFile}: {malformedText}"))
  | blank {instruction : String}
      (decodes : fs.Decodes (Path.join dir config.taskFile) decodeInstruction (some instruction))
      (blank : ∀ c ∈ instruction.toList, Text.isBlank c = true) :
      Reads (.error (.config s!"No instruction in {config.taskFile}"))
  | task {task : Task}
      (decodes : fs.Decodes (Path.join dir config.taskFile) decodeInstruction
        (some task.instruction))
      (isAt : task.IsAt config dir) : Reads (.ok task)

theorem load_reads : Reads fs config dir (load fs config dir) := by
  unfold load
  dsimp only
  split
  · rename_i isFile
    obtain ⟨content, found⟩ := FileSystem.isFile_iff.mp isFile
    cases decoded : Text.Utf8.decode? content with
    | none =>
        have bytes := Text.Utf8.decode?_eq_none_iff.mp decoded
        simp only [FileSystem.readText, found, decoded]
        exact .garbled ⟨content, found, bytes⟩
    | some text =>
        obtain rfl := Text.Utf8.decode?_eq_some_iff.mp decoded
        simp only [FileSystem.readText, found, decoded]
        cases said : Yaml.decode? decodeInstruction text with
        | none => exact .malformed ⟨text, found, said⟩
        | some instruction =>
            have decodes : fs.Decodes (Path.join dir config.taskFile) decodeInstruction
                (some instruction) := ⟨text, found, said⟩
            dsimp only
            split
            · rename_i blank
              exact .blank decodes (List.all_eq_true.mp blank)
            · rename_i filled
              refine .task decodes ⟨?_, rfl, rfl⟩
              simpa [Text.isAllBlank] using filled
  · rename_i notFile
    exact .missing fun content found => notFile (FileSystem.isFile_iff.mpr ⟨content, found⟩)

end Ways

/-! ## Outcomes -/

section Outcomes

variable {fs : FileSystem} {config : HarnessConfig} {dir path : String} {α : Type}
  {decode : Yaml.Decoder α} {made made' : Option α}

theorem not_garbled_of_decodes (decodes : fs.Decodes path decode made) : ¬ fs.Garbled path := by
  obtain ⟨text, found, -⟩ := decodes
  rintro ⟨content, found', garbled⟩
  rw [found] at found'
  cases found'
  exact garbled text rfl

/-- A file is decoded in one way. -/
theorem decodes_unique (decodes : fs.Decodes path decode made)
    (decodes' : fs.Decodes path decode made') : made = made' := by
  obtain ⟨text, found, rfl⟩ := decodes
  obtain ⟨text', found', rfl⟩ := decodes'
  rw [found] at found'
  have same : Text.Utf8.encode text = Text.Utf8.encode text' := by
    simpa [FileSystem.Node.ofText] using found'
  rw [Text.Utf8.encode_inj same]

/-- A task is told by its instruction and the settings. -/
theorem IsAt.ext {task task' : Task} (isAt : task.IsAt config dir) (isAt' : task'.IsAt config dir)
    (same : task.instruction = task'.instruction) : task = task' := by
  cases task
  cases task'
  simp only [Task.mk.injEq]
  exact ⟨same, isAt.testsPath.trans isAt'.testsPath.symm,
    isAt.scriptPath.trans isAt'.scriptPath.symm⟩

variable {outcome : Except TrialError Task} (reads : Reads fs config dir outcome)

include reads

/-- A directory with an instruction is read as its task. -/
theorem Reads.eq_ok {task : Task}
    (decodes : fs.Decodes (Path.join dir config.taskFile) decodeInstruction (some task.instruction))
    (isAt : task.IsAt config dir) : outcome = .ok task := by
  cases reads with
  | missing missing =>
      obtain ⟨text, found, -⟩ := decodes
      exact absurd found (missing _)
  | garbled garbled => exact absurd garbled (not_garbled_of_decodes decodes)
  | malformed malformed => cases decodes_unique malformed decodes
  | blank filled blank =>
      cases decodes_unique filled decodes
      obtain ⟨c, mem, visible⟩ := isAt.filled
      rw [blank c mem] at visible
      cases visible
  | task decodes' isAt' =>
      have same := Option.some.inj (decodes_unique decodes' decodes)
      rw [isAt'.ext isAt same]

/-- Only bytes that are no text are an error of another kind. -/
theorem Reads.eq_notText_iff :
    outcome = .error (.io .notText) ↔ fs.Garbled (Path.join dir config.taskFile) := by
  cases reads with
  | missing missing =>
      refine ⟨nofun, ?_⟩
      rintro ⟨content, found, -⟩
      exact absurd found (missing content)
  | garbled garbled => exact ⟨fun _ => garbled, fun _ => rfl⟩
  | malformed decodes =>
      exact ⟨nofun, fun garbled => absurd garbled (not_garbled_of_decodes decodes)⟩
  | blank decodes =>
      exact ⟨nofun, fun garbled => absurd garbled (not_garbled_of_decodes decodes)⟩
  | task decodes => exact ⟨nofun, fun garbled => absurd garbled (not_garbled_of_decodes decodes)⟩

theorem Reads.cases_ok_config :
    ((∃ task, outcome = .ok task) ∨ ∃ detail, outcome = .error (.config detail)) ↔
      outcome ≠ .error (.io .notText) := by
  cases reads <;> simp

end Outcomes

/-- **Outcomes.** A directory is read as a task exactly when its task file holds an instruction that
is more than blanks, and the task is then that instruction at the paths that the settings say. If it
is not, this is an error of the configuration, unless the bytes of the task file are no text: that
is an error of input and output. -/
theorem load_outcomes (fs : FileSystem) (config : HarnessConfig) (dir : String) :
    (∀ task, load fs config dir = .ok task ↔
      fs.Decodes (Path.join dir config.taskFile) decodeInstruction (some task.instruction) ∧
        task.IsAt config dir) ∧
    (((∃ task, load fs config dir = .ok task) ∨
        ∃ detail, load fs config dir = .error (.config detail)) ↔
      ¬ fs.Garbled (Path.join dir config.taskFile)) ∧
    (load fs config dir = .error (.io .notText) ↔
      fs.Garbled (Path.join dir config.taskFile)) := by
  have reads := load_reads fs config dir
  refine ⟨fun task => ⟨?_, fun h => reads.eq_ok h.1 h.2⟩, ?_, reads.eq_notText_iff⟩
  · intro read
    rw [read] at reads
    cases reads with
    | task decodes isAt => exact ⟨decodes, isAt⟩
  · rw [reads.cases_ok_config, ne_eq, reads.eq_notText_iff]

/-- A task directory whose task file ends in a byte that starts no character. -/
def garbled : FileSystem where
  root := .dir (.cons "t" (.dir (.cons "task.yaml"
    (.file (Text.Utf8.encode "instruction: " ++ [0xFF])) .nil)) .nil)
  workingDir := []

/-- Bytes that are no text are no error of the configuration in a task file, as they are in a file of
settings. -/
theorem garbled_task :
    load garbled {} "t" = .error (.io .notText) ∧
    HarnessConfig.load garbled "t/task.yaml" =
      .error (.config "Failed to read t/task.yaml: stream did not contain valid UTF-8") := by
  have unread : garbled.readText "t/task.yaml" = .error .notText := by decide +kernel
  have loaded : load garbled {} "t" = .error (.io .notText) := by decide +kernel
  refine ⟨loaded, ?_⟩
  rw [HarnessConfig.load, unread]
  rfl

end Task

end AgentTrial
