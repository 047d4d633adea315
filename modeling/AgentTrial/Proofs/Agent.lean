import AgentTrial.Config.Agent
import AgentTrial.Proofs.Shell.Template
import AgentTrial.Proofs.Text.Pieces

/-!
# What an agent is told and launched with

The slots of an agent's prompt and of its launch command are filled in turn, the project path first.

* **At once** — that is the same as filling both at once, for all instructions and all prompts, exactly
  when the path brings no occurrence of the other slot: it has none in it, and none is completed at
  its ends (`filled_at_once_iff`).
* **As words** — then, where the slots of the launch command stand alone, the shell gets the path and
  the prompt as one word each.
* **Otherwise** — a path with a slot in it is filled too, and what stands in the prompt is run
  (`instruction_run_from_path`).
* **Verbatim** — whatever the path is, the instruction and the quoted prompt are not looked into: they
  join pieces that depend on the settings alone, and settings that are accepted have a place for the
  prompt (`inserted_verbatim`).
-/

namespace AgentTrial.AgentConfig

open Shell Text.Template

/-- The path that is put into a template brings no occurrence of a slot. -/
def BringsNo (slot path template : String) : Prop :=
  count slot (fill workdirSlot path template).toList = count slot template.toList

theorem inBraces_workdirSlot : InBraces workdirSlot := ⟨"workdir".toList, by decide⟩

theorem inBraces_questionSlot : InBraces questionSlot := ⟨"question".toList, by decide⟩

theorem inBraces_promptSlot : InBraces promptSlot := ⟨"prompt".toList, by decide⟩

/-- A slot as the shell reads it where nothing is put in: a word that an expansion begins with. -/
def slotWord (slot : String) : Word :=
  match slot.toList with
  | [] => []
  | c :: cs => .active c :: cs.map .inert

theorem slotWord_spells {slot : String} (mem : slot ∈ [workdirSlot, promptSlot]) :
    Spells slot.toList (slotWord slot) := by
  rcases List.mem_pair.mp mem with rfl | rfl
  · exact @spells_cons _ _ _ true rfl rfl rfl
  · exact @spells_cons _ _ _ true rfl rfl rfl

/-- **At once.** For all settings:

* the prompt is what comes of putting the path and the instruction in at once, for every
  instruction, exactly when the path brings no slot for the instruction;
* the launch command is what comes of putting the quoted path and the quoted prompt in at once, for
  every prompt, exactly when the quoted path brings no slot for the prompt;
* where the slots stand alone in a launch command that can be read, the tokens of the command, with
  slots where words are put in, are those of its template, and every path that brings no slot and
  every prompt get there as one word each, which is the text. -/
theorem filled_at_once_iff (config : AgentConfig) :
    ((∀ instruction, config.prompt instruction =
          substitute [(workdirSlot, config.projectPath), (questionSlot, instruction)]
            (config.promptTemplate.getD defaultPrompt)) ↔
        BringsNo questionSlot config.projectPath (config.promptTemplate.getD defaultPrompt)) ∧
    ((∀ prompt, config.command prompt =
          substitute [(workdirSlot, quote config.projectPath), (promptSlot, quote prompt)]
            config.runCommand) ↔
        BringsNo promptSlot (quote config.projectPath) config.runCommand) ∧
    ((tokens? config.runCommand).isSome →
      (∀ slot ∈ [workdirSlot, promptSlot], StandsAlone .between slot config.runCommand.toList) →
        ∃ shape : Shape,
          (∀ slot ∈ [workdirSlot, promptSlot],
            shape.count (.slot slot) = count slot config.runCommand.toList) ∧
          tokens? config.runCommand = some (shape.fill slotWord) ∧
          ∀ path, BringsNo promptSlot (quote path) config.runCommand → ∀ prompt,
            tokens? ({ config with projectPath := path }.command prompt) = some
              (shape.fill (Word.ofText ∘ valueOf [(workdirSlot, path), (promptSlot, prompt)]))) := by
  have braces := inBraces_workdirSlot.of_mem_pair inBraces_promptSlot
  have launch (config : AgentConfig) := fill_fill_eq_substitute_iff inBraces_workdirSlot
    inBraces_promptSlot (by decide) (quote config.projectPath) config.runCommand quote
    (i := "a") (j := "aa") rfl
  refine ⟨?_, launch config, ?_⟩
  · exact fill_fill_eq_substitute_iff inBraces_workdirSlot inBraces_questionSlot (by decide)
      config.projectPath (config.promptTemplate.getD defaultPrompt) id (i := "") (j := "a") rfl
  intro readable alone
  obtain ⟨shape?, counts, reads⟩ := exists_shape braces
    (fun slot mem => ⟨slotWord slot, slotWord_spells mem⟩) alone
  have own : tokens? config.runCommand = shape?.map (Shape.fill slotWord) := by
    have template := reads id slotWord fun slot mem => slotWord_spells mem
    rwa [substituteIn_self braces] at template
  cases shape? with
  | none =>
      rw [own] at readable
      cases readable
  | some shape =>
      refine ⟨shape, counts shape rfl, own, ?_⟩
      intro path brings prompt
      have spells : ∀ slot ∈ [workdirSlot, promptSlot],
          Spells (valueOf [(workdirSlot, quote path), (promptSlot, quote prompt)] slot).toList
            ((Word.ofText ∘ valueOf [(workdirSlot, path), (promptSlot, prompt)]) slot) := by
        intro slot mem
        rcases List.mem_pair.mp mem with rfl | rfl
        · exact quote_spells path
        · exact quote_spells prompt
      have once := (launch { config with projectPath := path }).mpr brings prompt
      show tokens? (fill promptSlot _ (fill workdirSlot _ _)) = _
      rw [once, tokens?, substitute, String.toList_ofList]
      exact reads _ _ spells

/-- A launch command with both slots, and a path and a prompt with quotes, slots and braces. -/
theorem filled_at_once_iff_quoted :
    let config : AgentConfig := { runCommand := "cd \x7bworkdir\x7d && agent -p \x7bprompt\x7d" }
    let path := "/it's \x7bhere\x7d"
    let prompt := "fix $(it); \x7bworkdir\x7d"
    (tokens? config.runCommand).isSome ∧
      (∀ slot ∈ [workdirSlot, promptSlot], StandsAlone .between slot config.runCommand.toList) ∧
      BringsNo promptSlot (quote path) config.runCommand ∧
      ∃ shape : Shape,
        (shape.count (.slot workdirSlot) = 1 ∧ shape.count (.slot promptSlot) = 1) ∧
        tokens? ({ config with projectPath := path }.command prompt) = some
          (shape.fill (Word.ofText ∘ valueOf [(workdirSlot, path), (promptSlot, prompt)])) := by
  intro config path prompt
  have readable : (tokens? config.runCommand).isSome := by decide
  have alone : ∀ slot ∈ [workdirSlot, promptSlot],
      StandsAlone .between slot config.runCommand.toList := by decide
  have brings : BringsNo promptSlot (quote path) config.runCommand := by
    unfold BringsNo
    decide +kernel
  obtain ⟨shape, counts, -, reads⟩ := (filled_at_once_iff config).2.2 readable alone
  refine ⟨readable, alone, brings, shape, ⟨?_, ?_⟩, reads path brings prompt⟩
  · rw [counts workdirSlot (by decide)]
    decide
  · rw [counts promptSlot (by decide)]
    decide

/-- Settings that are accepted, with slots in the path. The prompt is put into the path, its quotes
close the quotes of the path, and a part of the instruction is run as a command. -/
theorem instruction_run_from_path :
    let config : AgentConfig :=
      { projectPath := "/\x7bquestion\x7d/\x7bprompt\x7d"
        promptTemplate := some "In \x7bworkdir\x7d: \x7bquestion\x7d"
        runCommand := "cd \x7bworkdir\x7d && agent -p \x7bprompt\x7d" }
    let instruction := "fix; touch it; #"
    let prompt := "In /fix; touch it; #/\x7bprompt\x7d: fix; touch it; #"
    let command := "cd '/\x7bquestion\x7d/'In /fix; touch it; #/\x7bprompt\x7d: fix; touch it; #''" ++
      " && agent -p 'In /fix; touch it; #/\x7bprompt\x7d: fix; touch it; #'"
    config.validate = .ok () ∧
      (∀ slot ∈ [workdirSlot, promptSlot], StandsAlone .between slot config.runCommand.toList) ∧
      config.prompt instruction = prompt ∧
      prompt ≠ substitute [(workdirSlot, config.projectPath), (questionSlot, instruction)]
        "In \x7bworkdir\x7d: \x7bquestion\x7d" ∧
      config.command prompt = command ∧
      command ≠ substitute [(workdirSlot, quote config.projectPath), (promptSlot, quote prompt)]
        config.runCommand ∧
      (read? command).map (·.map fun read => read.1.words) = some
        [["cd", "/\x7bquestion\x7d/In", "/fix"].map .ofText, ["touch", "it"].map .ofText] := by
  intro config instruction prompt command
  refine ⟨?_, ?_, ?_, ?_, ?_, ?_, ?_⟩ <;> decide +kernel

/-- Settings that are accepted have a slot for the prompt in the launch command. -/
theorem count_pos_of_validate {config : AgentConfig} (accepted : config.validate = .ok ()) :
    0 < count promptSlot config.runCommand.toList := by
  rw [← occurs_iff inBraces_promptSlot]
  by_contra missing
  unfold validate at accepted
  split at accepted
  · cases accepted
  · cases accepted

/-- **Verbatim.** For all settings:
* the template of the prompt, with the path in it, has pieces around the slots for the instruction,
  with a seam for each slot that was there before the path, and the prompt is these pieces joined by
  the instruction, whatever it is;
* if the settings are accepted, the template of the launch command, with the quoted path in it, has
  pieces around the slots for the prompt, two at least and a seam for each slot that was there before
  the path, and the launch command is these pieces joined by the quoted prompt, whatever it is;
  the quoted prompt is thus in the command. -/
theorem inserted_verbatim (config : AgentConfig) :
    (∃ pieces,
      CutAt questionSlot
        (fill workdirSlot config.projectPath (config.promptTemplate.getD defaultPrompt)) pieces ∧
      count questionSlot (config.promptTemplate.getD defaultPrompt).toList < pieces.length ∧
      ∀ instruction, config.prompt instruction = instruction.intercalate pieces) ∧
    (config.validate = .ok () →
      ∃ pieces,
        CutAt promptSlot (fill workdirSlot (quote config.projectPath) config.runCommand) pieces ∧
        count promptSlot config.runCommand.toList < pieces.length ∧ 2 ≤ pieces.length ∧
        ∀ prompt, config.command prompt = (quote prompt).intercalate pieces ∧
          (quote prompt).toList <:+: (config.command prompt).toList) := by
  constructor
  · refine ⟨_, cutAt_pieces inBraces_questionSlot _, ?_, fun instruction => rfl⟩
    exact count_lt_length_pieces inBraces_workdirSlot inBraces_questionSlot (by decide) _ _
  · intro accepted
    have slots := count_pos_of_validate accepted
    have seams := count_lt_length_pieces inBraces_workdirSlot inBraces_promptSlot (by decide)
      (quote config.projectPath) config.runCommand
    refine ⟨_, cutAt_pieces inBraces_promptSlot _, seams, by omega, fun prompt => ⟨rfl, ?_⟩⟩
    exact isInfix_intercalate (quote prompt) (by omega)

/-- Accepted settings whose path has a slot for the prompt in it, which makes a seam more than the two
of the launch command. -/
theorem inserted_verbatim_slot_in_path :
    let config : AgentConfig :=
      { projectPath := "/{prompt}"
        runCommand := "cd {workdir}; a {prompt} -- {prompt}" }
    let instruction := "fix {question} in {workdir}"
    config.validate = .ok () ∧
      ∃ pieces, 2 < pieces.length ∧
        config.command instruction = (quote instruction).intercalate pieces := by
  intro config instruction
  have accepted : config.validate = .ok () := by decide +kernel
  have two : count promptSlot config.runCommand.toList = 2 := by decide
  obtain ⟨pieces, -, seams, -, joined⟩ := (inserted_verbatim config).2 accepted
  exact ⟨accepted, pieces, by omega, (joined instruction).1⟩

end AgentTrial.AgentConfig
