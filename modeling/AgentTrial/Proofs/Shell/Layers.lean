import AgentTrial.Proofs.Path
import AgentTrial.Proofs.Shell.Quote
import AgentTrial.Proofs.Trial.Stages
import AgentTrial.Sandbox.Container

/-!
# Layers of quoting

A command that is run in a sandbox goes through several shells, and each takes the quotes of one
layer away.

* **Parts** — a command is written from fixed parts and quoted texts between them; it is read part
  by part (`lex_part`, `lex_quote`).
* **Commands** — so each command that the harness writes reads as the words it was written from, for
  all texts (`read_dispatchCommand`, `read_detached` and so on).
* **Layers** — and every text arrives as it is, however often it is quoted (`arguments_intact`).
-/

namespace AgentTrial.Shell

/-! ## Parts -/

/-- A fixed part that ends between two tokens is read on its own. -/
theorem lex_part {part : String} (after : Mode.between.after part.toList = .between)
    (rest : List Char) :
    Mode.between.lex (part.toList ++ rest) =
      (Mode.between.lex rest).map (Mode.between.emits part.toList ++ ·) := by
  rw [Mode.lex_append, after]

/-- A quoted text before a blank is read as a word, and the rest on its own. -/
theorem lex_quote {rest : List Char} (gap : rest.head? = some ' ') (s : String) :
    Mode.between.lex ((quote s).toList ++ rest) =
      (Mode.between.lex rest).map (.word (.ofText s) :: ·) := by
  have ends : EndsWord rest := by
    intro c mem
    rw [gap] at mem
    obtain rfl := Option.some.inj mem
    exact .inl rfl
  exact (quote_spells s).lex_append (m := .between) trivial ends

/-- A quoted text at the end is read as a word. -/
theorem lex_quote_end (s : String) :
    Mode.between.lex (quote s).toList = some [.word (.ofText s)] := by
  have alone := (quote_spells s).lex_append (m := .between) trivial endsWord_nil
  rwa [List.append_nil] at alone

/-! ## Commands -/

/-- The command of some texts, with the streams of the shell. -/
def Command.ofTexts (texts : List String) : Command := { words := texts.map .ofText }

theorem read_dispatchCommand (command path : String) :
    read? (Execution.dispatchCommand command path) = some
      [({ words := ["nohup", "sh", "-c", command].map .ofText
          stdin := .file (.ofText "/dev/null")
          stdout := .file (.ofText path)
          stderr := .file (.ofText path) }, .background),
        ({ words := [.ofText "echo", Word.ofText "[1] " ++ [.active '$', .active '!']] }, .last)] := by
  unfold read? tokens? Execution.dispatchCommand
  simp only [String.toList_append, List.append_assoc]
  rw [lex_part rfl, lex_quote rfl, lex_part rfl, lex_quote rfl]
  rfl

/-- The command that runs detached from a session has its errors where its output goes. -/
theorem read_detached (command : String) :
    read? (Container.detached command) = some
      [({ words := ["nohup", "bash", "-c", command].map .ofText
          stdin := .file (.ofText "/dev/null")
          stderr := .inherited 1 }, .last)] := by
  unfold read? tokens? Container.detached
  simp only [String.toList_append, List.append_assoc]
  rw [lex_part rfl, lex_quote rfl]
  rfl

theorem read_scoringCommand (remoteDir script : String) :
    read? (Trial.scoringCommand remoteDir script) =
      some [(.ofTexts ["bash", Path.trimSlashes remoteDir ++ "/" ++ script], .last)] := by
  unfold read? tokens? Trial.scoringCommand
  rw [String.toList_append, lex_part rfl, lex_quote_end]
  rfl

theorem read_collectCommand (path : String) :
    read? (Execution.collectCommand path) = some [(.ofTexts ["cat", path], .last)] := by
  unfold read? tokens? Execution.collectCommand
  simp only [String.toList_append]
  rw [lex_part rfl, lex_quote_end]
  rfl

/-- A text of plain characters is written as it is. -/
theorem quote_of_plain {s : String} (some : s.toList ≠ []) (plain : s.toList.all isPlain) :
    quote s = s := by
  rw [quote, quoteChars, if_pos ⟨some, plain⟩, String.ofList_toList]

/-- Numbers are written in plain characters. -/
theorem plain_toString (n : Nat) : (toString n).toList.all isPlain := by
  have digits : (toString n).toList = Nat.toDigits 10 n := by simp [Nat.repr]
  rw [digits, List.all_eq_true]
  intro c mem
  have digit := Nat.isDigit_of_mem_toDigits (by decide) (by decide) mem
  have range : '0' ≤ c ∧ c ≤ '9' := by
    simpa [Char.isDigit, Char.le_def] using digit
  simp [isPlain, isAlphanumeric, range]

/-- A process is looked at and then, if it is there, the file of its state, in which a zombie is told
by that pattern. The words of the pattern are no pattern of the shell. -/
theorem read_probeCommand (pid : Nat) :
    read? (Execution.probeCommand pid) = some
      [({ words := ["kill", "-0", toString pid].map .ofText
          stderr := .file (.ofText "/dev/null") }, .onSuccess),
        (.ofTexts ["!", "grep", "-qs", "^State:[[:space:]]*Z", "/proc/" ++ toString pid ++ "/status"],
          .last)] := by
  have status : ("/proc/" ++ toString pid ++ "/status").toList.all isPlain := by
    simp only [String.toList_append, List.all_append, plain_toString, Bool.and_true]
    decide
  have written : Execution.probeCommand pid = "kill -0 " ++ quote (toString pid) ++
      " 2>/dev/null && ! grep -qs '^State:[[:space:]]*Z' " ++
      quote ("/proc/" ++ toString pid ++ "/status") := by
    have parts : " 2>/dev/null && ! grep -qs '^State:[[:space:]]*Z' /proc/" =
        " 2>/dev/null && ! grep -qs '^State:[[:space:]]*Z' " ++ "/proc/" := rfl
    rw [quote_of_plain (by simp) (plain_toString pid), quote_of_plain (by simp) status,
      Execution.probeCommand_eq, Execution.probeText, parts]
    simp only [String.append_assoc]
  unfold read? tokens?
  rw [written]
  simp only [String.toList_append, List.append_assoc]
  rw [lex_part rfl, lex_quote rfl, lex_part rfl, lex_quote_end]
  rfl

theorem read_makeDirCommand (remoteDir : String) :
    read? (Provision.makeDirCommand remoteDir) =
      some [(.ofTexts ["mkdir", "-p", remoteDir], .last)] := by
  unfold read? tokens? Provision.makeDirCommand
  simp only [String.toList_append]
  rw [lex_part rfl, lex_quote_end]
  rfl

theorem read_extractCommand (remoteDir : String) :
    read? (Provision.extractCommand remoteDir) = some
      [(.ofTexts ["tar", "-xzf", Provision.remoteArchive remoteDir, "-C", remoteDir], .onSuccess),
        (.ofTexts ["rm", "-f", Provision.remoteArchive remoteDir], .last)] := by
  unfold read? tokens? Provision.extractCommand
  simp only [String.toList_append, List.append_assoc]
  rw [lex_part rfl, lex_quote rfl, lex_part rfl, lex_quote rfl, lex_part rfl, lex_quote_end]
  rfl

/-! ## Layers -/

/-- **Layers.** For all settings and all texts, whatever characters they have:

* a launch is read as one command that is left running, which gets the launched command as one word
  and has its input from nowhere and both outputs in the file of that path, and then the report of
  its process, in which nothing but the process number is put in by the shell;
* the launched command of the tests is read, in its turn, as `bash` and the path of the script;
* the output is collected from the file of that same path;
* a container runs a detached command as one word;
* the commands that unpack the test assets have the directory and the archive as one word each.

The words are the texts, and the shell acts on no character of them. -/
theorem arguments_intact (trial : Trial) (script command path : String) :
    (∀ s, (Word.ofText s).text? = some s) ∧
    read? (Execution.dispatchCommand command path) = some
      [({ words := ["nohup", "sh", "-c", command].map .ofText
          stdin := .file (.ofText "/dev/null")
          stdout := .file (.ofText path)
          stderr := .file (.ofText path) }, .background),
        ({ words := [.ofText "echo", Word.ofText "[1] " ++ [.active '$', .active '!']] }, .last)] ∧
    read? (trial.testCommand script) = some
      [(.ofTexts ["bash", Path.trimSlashes trial.config.remoteTestDir ++ "/" ++ script], .last)] ∧
    read? (Execution.collectCommand path) = some [(.ofTexts ["cat", path], .last)] ∧
    read? (Container.detached command) = some
      [({ words := ["nohup", "bash", "-c", command].map .ofText
          stdin := .file (.ofText "/dev/null")
          stderr := .inherited 1 }, .last)] ∧
    read? (Provision.makeDirCommand trial.config.remoteTestDir) = some
      [(.ofTexts ["mkdir", "-p", trial.config.remoteTestDir], .last)] ∧
    read? (Provision.extractCommand trial.config.remoteTestDir) = some
      [(.ofTexts ["tar", "-xzf", Path.trimSlashes trial.config.remoteTestDir ++ "/tests.tar.gz",
          "-C", trial.config.remoteTestDir], .onSuccess),
        (.ofTexts ["rm", "-f", Path.trimSlashes trial.config.remoteTestDir ++ "/tests.tar.gz"],
          .last)] := by
  have scoring := read_scoringCommand (Path.trimSlashes trial.config.remoteTestDir) script
  rw [Path.trimSlashes_trimSlashes] at scoring
  have archive : Provision.remoteArchive trial.config.remoteTestDir =
      Path.trimSlashes trial.config.remoteTestDir ++ "/tests.tar.gz" := String.append_assoc ..
  refine ⟨Word.text?_ofText, read_dispatchCommand command path, scoring, read_collectCommand path,
    read_detached command, read_makeDirCommand _, ?_⟩
  rw [← archive]
  exact read_extractCommand _

end AgentTrial.Shell
