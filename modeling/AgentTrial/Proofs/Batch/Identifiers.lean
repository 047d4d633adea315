import Mathlib.Data.List.Forall2
import AgentTrial.Proofs.Batch.Bound
import AgentTrial.Proofs.FileSystem.Lookup

/-!
# Identifiers of tasks

The tasks of a batch are told apart by their names. Their sessions, and the files that receive their
output, are named after them with a dash for every character that is not safe in a name.

* **Names** — the name of a task is the name of its directory (`join_taskNameOf`), so the tasks of a
  batch have different names.
* **Sessions** — two names lead to one session exactly if they differ in nothing but characters that
  become dashes (`sessionName_eq_iff`), and output files collide where sessions do
  (`outputPath_inj`).
* **Batches** — so tasks have identifiers of their own as far as their names are safe, and no
  further (`identifiers_collide_iff`, `blank_and_dash_collide`).
-/

namespace AgentTrial

/-! ## Sessions -/

/-- A character that stands as a dash in the name of a session. -/
def IsDashed (c : Char) : Prop := c = '-' ∨ ¬ isNameSafe c

/-- Characters that stand as the same one in the name of a session. -/
def StandAlike (c c' : Char) : Prop := c = c' ∨ IsDashed c ∧ IsDashed c'

/-- Names that differ in nothing but characters that stand as dashes. -/
def Blurred (name name' : String) : Prop := List.Forall₂ StandAlike name.toList name'.toList

theorem standAlike_iff (c c' : Char) :
    StandAlike c c' ↔ (if isNameSafe c then c else '-') = if isNameSafe c' then c' else '-' := by
  have dash : isNameSafe '-' = true := by decide
  unfold StandAlike IsDashed
  split <;> split <;> grind

/-- Of the safe characters only the dash stands as a dash. -/
theorem StandAlike.eq {c c' : Char} (h : StandAlike c c') (safe : isNameSafe c)
    (safe' : isNameSafe c') : c = c' := by
  rw [standAlike_iff, if_pos safe, if_pos safe'] at h
  exact h

/-- **Sessions.** Names lead to one session if they differ in dashes only. -/
theorem sessionName_eq_iff (name name' : String) :
    sessionName name = sessionName name' ↔ Blurred name name' := by
  unfold sessionName Blurred
  rw [String.append_right_inj, ← String.toList_inj, String.toList_map, String.toList_map,
    ← List.forall₂_eq_eq_eq, List.forall₂_map_left_iff, List.forall₂_map_right_iff]
  constructor
  · intro same
    exact same.imp fun c c' => (standAlike_iff c c').mpr
  · intro blurred
    exact blurred.imp fun c c' => (standAlike_iff c c').mp

theorem eq_of_standAlike {cs cs' : List Char} (h : List.Forall₂ StandAlike cs cs')
    (safe : ∀ c ∈ cs, isNameSafe c) (safe' : ∀ c ∈ cs', isNameSafe c) : cs = cs' := by
  induction h with
  | nil => rfl
  | cons here _ ih =>
      rw [List.forall_mem_cons] at safe safe'
      rw [here.eq safe.1 safe'.1, ih safe.2 safe'.2]

/-- Names of safe characters are told apart. -/
theorem Blurred.eq {name name' : String} (h : Blurred name name')
    (safe : ∀ c ∈ name.toList, isNameSafe c) (safe' : ∀ c ∈ name'.toList, isNameSafe c) :
    name = name' :=
  String.toList_inj.mp (eq_of_standAlike h safe safe')

/-- Output files are one only where sessions are. -/
theorem outputPath_inj (remoteDir session session' : String) :
    outputPath remoteDir session = outputPath remoteDir session' ↔ session = session' := by
  simp [outputPath]

namespace Batch

/-! ## Names -/

/-- A task directory that is found has its name from the directory above it. -/
theorem join_taskNameOf {fs : FileSystem} (wellNamed : fs.root.WellNamed) {config : HarnessConfig}
    {root : String} {dirs : List String} (found : discover fs config root = .ok dirs) {dir : String}
    (mem : dir ∈ dirs) : Path.join root (taskNameOf dir) = dir := by
  unfold discover at found
  split at found
  · cases found
  rename_i entries here
  split at found
  · cases found
  · cases found
    obtain ⟨name, listed, rfl⟩ := List.mem_map.mp mem
    obtain ⟨⟨_, node⟩, kept, rfl⟩ := List.mem_map.mp (List.mem_mergeSort.mp listed)
    have isName := (FileSystem.directory?_wellNamed wellNamed here).isName
      (List.mem_of_mem_filter kept)
    rw [taskNameOf, Path.fileName?_join root isName, Option.getD_some]

/-! ## Batches -/

/-- **Batches.** Two different task directories of a batch have different names, and for every
directory that receives output:

* they share a session, or the file with the output, exactly if their names differ only in
  characters that stand as dashes;
* so they have identifiers of their own if their names are of safe characters. -/
theorem identifiers_collide_iff {fs : FileSystem} (wellNamed : fs.root.WellNamed)
    {config : HarnessConfig} {root : String} {dirs : List String}
    (found : discover fs config root = .ok dirs) {dir dir' : String} (mem : dir ∈ dirs)
    (mem' : dir' ∈ dirs) (differ : dir ≠ dir') (remoteDir : String) :
    let name := taskNameOf dir
    let name' := taskNameOf dir'
    let output (name : String) := outputPath remoteDir (sessionName name)
    name ≠ name' ∧
      (sessionName name = sessionName name' ↔ Blurred name name') ∧
      (output name = output name' ↔ Blurred name name') ∧
      ((∀ c ∈ name.toList, isNameSafe c) → (∀ c ∈ name'.toList, isNameSafe c) →
        sessionName name ≠ sessionName name' ∧ output name ≠ output name') := by
  intro name name' output
  have named : name ≠ name' := by
    intro same
    refine differ ?_
    rw [← join_taskNameOf wellNamed found mem, ← join_taskNameOf wellNamed found mem']
    exact congrArg (Path.join root) same
  have sessions := sessionName_eq_iff name name'
  have outputs : output name = output name' ↔ Blurred name name' :=
    (outputPath_inj remoteDir _ _).trans sessions
  refine ⟨named, sessions, outputs, fun safe safe' => ?_⟩
  have distinct : ¬ Blurred name name' := fun blurred => named (blurred.eq safe safe')
  exact ⟨fun same => distinct (sessions.mp same), fun same => distinct (outputs.mp same)⟩

/-! ## A blank and a dash -/

/-- A disk with the directories of two tasks whose names differ in a blank and a dash. -/
def twins : FileSystem where
  root := .dir (.cons "t" (.dir (.cons "a b" taskNode (.cons "a-b" taskNode .nil))) .nil)
  workingDir := []

theorem twins_wellNamed : twins.root.WellNamed := by
  have task : taskNode.WellNamed := ⟨by decide, rfl, trivial, trivial⟩
  have two : (FileSystem.Entries.cons "a b" taskNode (.cons "a-b" taskNode .nil)).WellNamed :=
    ⟨by decide, by decide, task, by decide, rfl, task, trivial⟩
  exact ⟨by decide, rfl, two, trivial⟩

theorem twins_discover : discover twins {} "t" = .ok ["t/a b", "t/a-b"] := by
  have tree : twins.directory? "t" = some (.cons "a b" taskNode (.cons "a-b" taskNode .nil)) := rfl
  have blank : twins.isFile (Path.join (Path.join "t" "a b") "task.yaml") = true := by
    decide +kernel
  have dash : twins.isFile (Path.join (Path.join "t" "a-b") "task.yaml") = true := by
    decide +kernel
  have listed : twins.unlisted "t" = none := rfl
  unfold discover
  simp [tree, listed, FileSystem.Entries.toList, taskNode, FileSystem.Node.isDir, blank,
    dash, List.mergeSort]
  decide

theorem identifiers_collide_iff_twins :
    twins.root.WellNamed ∧ discover twins {} "t" = .ok ["t/a b", "t/a-b"] ∧
      "t/a b" ≠ "t/a-b" ∧ taskNameOf "t/a b" ≠ taskNameOf "t/a-b" ∧
      (sessionName (taskNameOf "t/a b") = sessionName (taskNameOf "t/a-b") ↔
        Blurred (taskNameOf "t/a b") (taskNameOf "t/a-b")) := by
  have differ : "t/a b" ≠ "t/a-b" := by decide
  have collide := identifiers_collide_iff twins_wellNamed twins_discover List.mem_cons_self
    (List.mem_cons_of_mem _ List.mem_cons_self) differ "/tests"
  exact ⟨twins_wellNamed, twins_discover, differ, collide.1, collide.2.1⟩

/-- Two tasks of one batch with one session, and with one file for their output. -/
theorem blank_and_dash_collide :
    discover twins {} "t" = .ok ["t/a b", "t/a-b"] ∧ "t/a b" ≠ "t/a-b" ∧
      sessionName (taskNameOf "t/a b") = sessionName (taskNameOf "t/a-b") ∧
      ∀ remoteDir, outputPath remoteDir (sessionName (taskNameOf "t/a b")) =
        outputPath remoteDir (sessionName (taskNameOf "t/a-b")) := by
  have same : sessionName (taskNameOf "t/a b") = sessionName (taskNameOf "t/a-b") := by
    decide +kernel
  exact ⟨twins_discover, by decide, same, fun remoteDir => congrArg (outputPath remoteDir) same⟩

end Batch

end AgentTrial
