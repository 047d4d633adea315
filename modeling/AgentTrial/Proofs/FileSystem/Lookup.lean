import AgentTrial.FileSystem.Lookup
import AgentTrial.Proofs.FileSystem.Tree

/-!
# Paths of files

* **Files** — a path that leads to a regular file ends in a name: what a path ends in otherwise
  leads to directories only (`fileName?_isSome`).
* **Names** — what a path leads to in a tree as a disk holds it is such a tree itself
  (`directory?_wellNamed`).
-/

namespace AgentTrial.FileSystem

/-- What a path may have at its end without leading to an entry of a directory. -/
def IsStep (name : String) : Prop := name = "" ∨ name = "." ∨ name = ".."

/-- Above every node there are directories. -/
theorem Node.find?_append_singleton {node found : Node} {names : List String} {name : String}
    (h : node.find? (names ++ [name]) = some found) :
    ∃ entries, node.find? names = some (.dir entries) := by
  induction names generalizing node with
  | nil =>
      cases node with
      | dir entries => exact ⟨entries, rfl⟩
      | _ => cases h
  | cons first names ih =>
      cases node with
      | dir entries =>
          obtain ⟨below, here, later⟩ := Option.bind_eq_some_iff.mp h
          obtain ⟨inner, reached⟩ := ih later
          exact ⟨inner, by simp [Node.find?, here, reached]⟩
      | _ => cases h

section Walking

variable {root : Node} {last : String} {place : List String} {entries : Entries}
  {jump : List String → List String → Except FileError Spot}

/-- A walk that ends in a directory finds no file. -/
theorem walkBy_nil_ne_file (here : root.find? place.reverse = some (.dir entries))
    (end' : List String) (content : List UInt8) :
    walkBy root true jump place [] ≠ .ok (.found end' (.file content)) := by
  rw [walkBy, here]
  intro h
  cases h

/-- A walk whose last step is no name finds no file, if no link leads to one by that step. -/
theorem walkBy_ne_file (step : IsStep last)
    (jumps : ∀ place names end' content,
      jump place (names ++ [last]) ≠ .ok (.found end' (.file content)))
    (names end' : List String) (content : List UInt8) :
    walkBy root true jump place (names ++ [last]) ≠ .ok (.found end' (.file content)) := by
  induction names generalizing place with
  | nil =>
      intro h
      rw [List.nil_append, walkBy] at h
      split at h
      · rename_i entries here
        rcases step with rfl | rfl | rfl
        · rw [if_pos (.inl rfl)] at h
          exact walkBy_nil_ne_file here end' content h
        · rw [if_pos (.inr rfl)] at h
          exact walkBy_nil_ne_file here end' content h
        · rw [if_neg (by decide), if_pos rfl] at h
          -- one directory up there is a directory too
          have above : ∃ entries, root.find? place.tail.reverse = some (.dir entries) := by
            cases place with
            | nil => exact ⟨entries, here⟩
            | cons name place =>
                rw [List.reverse_cons] at here
                exact Node.find?_append_singleton here
          obtain ⟨_, above⟩ := above
          exact walkBy_nil_ne_file above end' content h
      · cases h
      · cases h
  | cons name names ih =>
      intro h
      have more : names ++ [last] ≠ [] := List.append_ne_nil_of_right_ne_nil _ (by simp)
      rw [List.cons_append, walkBy] at h
      split at h
      · split at h
        · exact ih h
        split at h
        · exact ih h
        split at h
        · cases h
        split at h
        · simp at h
        · rw [if_neg (by simp [more]), ← List.append_assoc] at h
          exact jumps _ _ _ _ h
        · exact ih h
      · cases h
      · cases h

theorem walk_ne_file (step : IsStep last) (links : Nat) (names end' : List String)
    (content : List UInt8) :
    walk root true links place (names ++ [last]) ≠ .ok (.found end' (.file content)) := by
  induction links generalizing place names end' content with
  | zero => exact walkBy_ne_file step (fun _ _ _ _ h => by cases h) names end' content
  | succ links ih =>
      refine walkBy_ne_file step (fun place names end' content => ?_) names end' content
      exact ih names end' content

end Walking

/-- **Files.** A path that leads to a regular file ends in a name. -/
theorem fileName?_isSome {fs : FileSystem} {path : String} {content : List UInt8}
    (file : fs.node? path = .ok (.file content)) : (Path.fileName? path).isSome := by
  obtain ⟨names, last, parts⟩ : ∃ names last, Path.parts path = names ++ [last] := by
    have filled : Path.parts path ≠ [] := by simp [Path.parts]
    exact ⟨_, _, (List.dropLast_append_getLast filled).symm⟩
  have located : ∃ place, fs.locate true path = .ok (.found place (.file content)) := by
    unfold node? at file
    split at file
    · rename_i place node here
      cases file
      exact ⟨place, here⟩
    · cases file
    · cases file
  obtain ⟨place, located⟩ := located
  have named : ¬IsStep last := by
    intro step
    unfold locate at located
    rw [parts] at located
    split at located
    · cases located
    split at located
    · cases located
    split at located
    · cases located
    · exact walk_ne_file step 40 names place content located
  obtain ⟨nonempty, notHere, notUp⟩ := by simpa only [IsStep, not_or] using named
  have kept : (last != "" && last != ".") = true := by simp [nonempty, notHere]
  rw [Path.fileName?, Path.steps, parts, List.filter_append, List.filter_singleton, kept]
  simp [notUp]

/-- A path leads to a regular file when it leads to some bytes. -/
theorem isFile_iff {fs : FileSystem} {path : String} :
    fs.isFile path = true ↔ ∃ content, fs.node? path = .ok (.file content) := by
  unfold isFile
  rcases fs.node? path with e | ⟨⟨content⟩ | ⟨target⟩ | ⟨entries⟩⟩ <;> simp [Node.isFile]

theorem fileName?_isSome_of_isFile {fs : FileSystem} {path : String} (h : fs.isFile path = true) :
    (Path.fileName? path).isSome := by
  obtain ⟨content, file⟩ := isFile_iff.mp h
  exact fileName?_isSome file

section WellNamed

variable {root node : Node} {follow : Bool} {end' : List String} (wellNamed : root.WellNamed)

include wellNamed

theorem walkBy_wellNamed {jump : List String → List String → Except FileError Spot}
    (jumps : ∀ place names end' node, jump place names = .ok (.found end' node) → node.WellNamed)
    (place names : List String) (h : walkBy root follow jump place names = .ok (.found end' node)) :
    node.WellNamed := by
  induction names generalizing place with
  | nil =>
      rw [walkBy] at h
      split at h
      · rename_i found here
        cases h
        exact wellNamed.find? here
      · cases h
  | cons name names ih =>
      rw [walkBy] at h
      split at h
      · split at h
        · exact ih place h
        split at h
        · exact ih _ h
        split at h
        · cases h
        split at h
        · split at h <;> cases h
        · -- a link is no directory itself, and where it leads to is left to the jump
          split at h
          · cases h
            trivial
          · exact jumps _ _ _ _ h
        · exact ih _ h
      · cases h
      · cases h

theorem walk_wellNamed (links : Nat) (place names : List String) (end' : List String) (node : Node)
    (h : walk root follow links place names = .ok (.found end' node)) : node.WellNamed := by
  induction links generalizing place names end' node with
  | zero => exact walkBy_wellNamed wellNamed (fun _ _ _ _ h => by cases h) place names h
  | succ links ih => exact walkBy_wellNamed wellNamed ih place names h

end WellNamed

/-- **Names.** In a tree as a disk holds it every directory has entries as a disk holds them. -/
theorem directory?_wellNamed {fs : FileSystem} (wellNamed : fs.root.WellNamed) {path : String}
    {entries : Entries} (here : fs.directory? path = some entries) : entries.WellNamed := by
  unfold directory? node? at here
  split at here
  · rename_i found
    cases here
    split at found
    · rename_i located
      cases found
      unfold locate at located
      split at located
      · cases located
      split at located
      · cases located
      split at located
      · cases located
      · exact walk_wellNamed wellNamed _ _ _ _ _ located
    · cases found
    · cases found
  · cases here

end AgentTrial.FileSystem
