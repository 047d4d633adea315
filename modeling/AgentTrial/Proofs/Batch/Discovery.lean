import AgentTrial.Proofs.Batch.Identifiers
import AgentTrial.Proofs.FileSystem.Alike
import AgentTrial.Proofs.Text.Utf8

/-!
# Task directories

Which directories are tasks of a batch, and in which order they are listed.

* **Tasks** — the tasks below a directory are its own entries that are directories themselves and
  from which a regular file is reached by the path of the task file (`IsTask`). Links count for the
  file and not for the directory.
* **Order** — they are listed by the bytes of their names, which is the order of their paths
  component by component (`ListsTasks`), each once. There is one such list.
* **Disks** — so the order in which a disk lists entries makes no difference (`discover_spec`).
-/

namespace AgentTrial.Batch

open FileSystem Text.Utf8

/-- An entry of a directory that is a directory itself, and from which a task file is reached. -/
structure IsTask (fs : FileSystem) (taskFile dir name : String) : Prop where
  entry : ∃ entries below, fs.directory? dir = some entries ∧ entries.find? name = some (.dir below)
  file : fs.isFile (Path.join (Path.join dir name) taskFile) = true

/-- The paths of the tasks right below a directory, in ascending order. -/
structure ListsTasks (fs : FileSystem) (taskFile dir : String) (dirs : List String) : Prop where
  mem_iff : ∀ path, path ∈ dirs ↔ ∃ name, IsTask fs taskFile dir name ∧ path = Path.join dir name
  /-- Each is one component longer than the directory. -/
  inside : ∀ path ∈ dirs, Path.components path = Path.components dir ++ [taskNameOf path]
  byName : dirs.Pairwise fun path later => encode (taskNameOf path) < encode (taskNameOf later)
  byPath : dirs.Pairwise fun path later =>
    (Path.components path).map encode < (Path.components later).map encode
  distinct : (dirs.map taskNameOf).Nodup

section Order

variable {fs fs' : FileSystem} {taskFile dir name : String} {dirs dirs' names : List String}

theorem taskNameOf_join (dir : String) (isName : Path.IsName name) :
    taskNameOf (Path.join dir name) = name := by
  rw [taskNameOf, Path.fileName?_join dir isName, Option.getD_some]

theorem IsTask.isName (wellNamed : fs.root.WellNamed) (task : IsTask fs taskFile dir name) :
    Path.IsName name := by
  obtain ⟨entries, below, here, found⟩ := task.entry
  exact (directory?_wellNamed wellNamed here).isName (Entries.mem_toList_of_find? found)

/-- Texts that are sorted and different are sorted strictly, and so are their bytes. -/
theorem pairwise_encode_mergeSort (distinct : names.Nodup) :
    (names.mergeSort fun a b => a ≤ b).Pairwise fun a b => encode a < encode b := by
  have sorted : (names.mergeSort fun a b => a ≤ b).Pairwise fun a b => decide (a ≤ b) = true :=
    List.pairwise_mergeSort (by simpa using fun _ _ _ => String.le_trans)
      (by simpa using String.le_total) names
  have differ := (List.mergeSort_perm names fun a b => a ≤ b).nodup_iff.mpr distinct
  refine sorted.imp₂ (fun a b le ne => encode_lt_encode ?_) differ
  by_contra notLess
  exact ne (String.le_antisymm (of_decide_eq_true le) (String.not_lt.mp notLess))

/-- A list of tasks by name is one by path, since the paths differ in the last component alone. -/
theorem listsTasks_of_names
    (tasks : ∀ name, name ∈ names ↔ IsTask fs taskFile dir name)
    (named : ∀ name ∈ names, Path.IsName name)
    (sorted : names.Pairwise fun a b => encode a < encode b) :
    ListsTasks fs taskFile dir (names.map (Path.join dir)) := by
  have back : ∀ name ∈ names, taskNameOf (Path.join dir name) = name := fun name mem =>
    taskNameOf_join dir (named name mem)
  constructor
  · intro path
    simp only [List.mem_map, tasks, eq_comm]
  · intro path mem
    obtain ⟨name, listed, rfl⟩ := List.mem_map.mp mem
    rw [Path.components_join dir (named name listed), back name listed]
  · rw [List.pairwise_map]
    refine sorted.imp_of_mem fun mem mem' less => ?_
    rwa [back _ mem, back _ mem']
  · rw [List.pairwise_map]
    refine sorted.imp_of_mem fun mem mem' less => ?_
    rw [Path.components_join dir (named _ mem), Path.components_join dir (named _ mem'),
      List.map_append, List.map_append]
    exact List.append_left_lt (List.cons_lt_cons_iff.mpr (.inl less))
  · have same : (names.map (Path.join dir)).map taskNameOf = names := by
      rw [List.map_map]
      exact (List.map_congr_left back).trans (List.map_id names)
    rw [same]
    exact sorted.imp fun less same => absurd (same ▸ less) (List.lt_irrefl _)

/-- There is one such list. -/
theorem ListsTasks.unique (lists : ListsTasks fs taskFile dir dirs)
    (lists' : ListsTasks fs taskFile dir dirs') : dirs = dirs' := by
  have perm : dirs.Perm dirs' := by
    refine (List.perm_ext_iff_of_nodup lists.distinct.of_map lists'.distinct.of_map).mpr ?_
    exact fun path => (lists.mem_iff path).trans (lists'.mem_iff path).symm
  refine perm.eq_of_pairwise (fun a b _ _ less more => ?_) lists.byName lists'.byName
  exact absurd (List.lt_trans less more) (List.lt_irrefl _)

/-- What the tasks are does not depend on the order in which entries are listed. -/
theorem IsTask.of_alike (alike : fs.root.Alike fs'.root) (same : fs.workingDir = fs'.workingDir)
    (task : IsTask fs taskFile dir name) : IsTask fs' taskFile dir name := by
  obtain ⟨entries, below, here, found⟩ := task.entry
  obtain ⟨entries', here', similar⟩ := directory?_alike alike same here
  refine ⟨⟨entries', ?_⟩, isFile_of_alike alike same task.file⟩
  have kinds := similar.entry name
  rw [found, Option.map_some] at kinds
  obtain ⟨node, found', kind⟩ := Option.map_eq_some_iff.mp kinds.symm
  cases node with
  | dir below' => exact ⟨below', here', found'⟩
  | file | link => cases kind

theorem ListsTasks.of_alike (alike : fs.root.Alike fs'.root)
    (same : fs.workingDir = fs'.workingDir) (lists : ListsTasks fs taskFile dir dirs) :
    ListsTasks fs' taskFile dir dirs where
  mem_iff := by
    intro path
    rw [lists.mem_iff path]
    refine exists_congr fun name => and_congr_left fun _ => ?_
    exact ⟨IsTask.of_alike alike same, IsTask.of_alike alike.symm same.symm⟩
  inside := lists.inside
  byName := lists.byName
  byPath := lists.byPath
  distinct := lists.distinct

end Order

section Discovery

variable {fs : FileSystem} {dir : String}

/-- What is discovered in a directory are its tasks. -/
theorem listsTasks_of_discover (wellNamed : fs.root.WellNamed) {config : HarnessConfig}
    {dirs : List String} (found : discover fs config dir = .ok dirs) :
    ListsTasks fs config.taskFile dir dirs := by
  unfold discover at found
  split at found
  · cases found
  rename_i entries here
  split at found
  · cases found
  · cases found
    have listed := directory?_wellNamed wellNamed here
    have tasks : ∀ name, name ∈ (entries.toList.filter fun entry => entry.2.isDir &&
        fs.isFile (Path.join (Path.join dir entry.1) config.taskFile)).map (·.1) ↔
          IsTask fs config.taskFile dir name := by
      intro name
      constructor
      · intro mem
        obtain ⟨⟨name, node⟩, kept, rfl⟩ := List.mem_map.mp mem
        obtain ⟨entry, passes⟩ := List.mem_filter.mp kept
        obtain ⟨real, file⟩ := Bool.and_eq_true_iff.mp passes
        cases node with
        | dir below => exact ⟨⟨entries, below, here, listed.mem_toList_iff.mp entry⟩, file⟩
        | file | link => cases real
      · rintro ⟨⟨entries', below, here', found⟩, file⟩
        obtain rfl := Option.some.inj (here.symm.trans here')
        refine List.mem_map.mpr ⟨(name, .dir below), List.mem_filter.mpr ⟨?_, ?_⟩, rfl⟩
        · exact listed.mem_toList_iff.mpr found
        · exact Bool.and_eq_true_iff.mpr ⟨rfl, file⟩
    refine listsTasks_of_names (fun name => ?_) (fun name mem => ?_) (pairwise_encode_mergeSort ?_)
    · rw [List.mem_mergeSort]
      exact tasks name
    · exact ((tasks name).mp (List.mem_mergeSort.mp mem)).isName wellNamed
    · exact listed.nodup.sublist (List.filter_sublist.map _)

theorem discover_eq_error_iff {config : HarnessConfig} {e : TrialError} :
    discover fs config dir = .error e ↔
      (fs.isDir dir = false ∧ e = .tasksDirMissing dir) ∨
        (fs.isDir dir = true ∧ ∃ cause, fs.unlisted dir = some cause ∧ e = .io cause) := by
  unfold discover isDir
  cases fs.directory? dir with
  | none => simp [eq_comm]
  | some entries =>
      dsimp only
      cases fs.unlisted dir with
      | none => simp
      | some cause => simp [eq_comm]

theorem exists_discover (config : HarnessConfig) (isDir : fs.isDir dir = true)
    (listed : fs.unlisted dir = none) : ∃ dirs, discover fs config dir = .ok dirs := by
  cases found : discover fs config dir with
  | ok dirs => exact ⟨dirs, rfl⟩
  | error e =>
      obtain ⟨missing, -⟩ | ⟨-, cause, unlisted, -⟩ := discover_eq_error_iff.mp found
      · rw [isDir] at missing
        cases missing
      · rw [listed] at unlisted
        cases unlisted

/-- Where a directory lists its entries in another order, the same tasks are discovered. -/
theorem discover_of_alike {fs' : FileSystem} (wellNamed : fs.root.WellNamed)
    (wellNamed' : fs'.root.WellNamed) (alike : fs.root.Alike fs'.root)
    (same : fs.workingDir = fs'.workingDir) (errors : fs'.unlisted dir = fs.unlisted dir)
    (config : HarnessConfig) :
    discover fs' config dir = discover fs config dir := by
  have isDir : fs'.isDir dir = fs.isDir dir := by
    rw [Bool.eq_iff_iff]
    exact ⟨isDir_of_alike alike.symm same.symm, isDir_of_alike alike same⟩
  cases found : discover fs config dir with
  | error e =>
      rw [discover_eq_error_iff] at found ⊢
      rwa [isDir, errors]
  | ok dirs =>
      have there : fs.isDir dir = true ∧ fs.unlisted dir = none := by
        constructor
        · by_contra missing
          rw [discover_eq_error_iff.mpr (.inl ⟨by simpa using missing, rfl⟩)] at found
          cases found
        · by_contra unlisted
          obtain ⟨cause, fails⟩ := Option.ne_none_iff_exists'.mp unlisted
          cases here : fs.isDir dir with
          | false =>
              rw [discover_eq_error_iff.mpr (.inl ⟨here, rfl⟩)] at found
              cases found
          | true =>
              rw [discover_eq_error_iff.mpr (.inr ⟨here, cause, fails, rfl⟩)] at found
              cases found
      -- both come to a list of the same tasks, and there is one such list
      obtain ⟨dirs', found'⟩ := exists_discover config (isDir.trans there.1)
        (errors.trans there.2)
      have lists := (listsTasks_of_discover wellNamed found).of_alike alike same
      rw [found', (listsTasks_of_discover wellNamed' found').unique lists]

/-- **Discovery.** For every tree as a disk holds it, all settings and every path:

* the discovery fails exactly if the path leads to no directory, or to one that cannot be listed to
  its end, and it says so;
* otherwise it lists the tasks right below the directory, each once, in strictly ascending order of
  the bytes of their names;
* in every other tree in which the same names lead to the same kinds of nodes, in whatever order its
  directories list their entries, it comes to the same, unless one can be listed and the other
  cannot. -/
theorem discover_spec (wellNamed : fs.root.WellNamed) (config : HarnessConfig) (dir : String) :
    (∀ e, discover fs config dir = .error e ↔
      (fs.isDir dir = false ∧ e = .tasksDirMissing dir) ∨
        (fs.isDir dir = true ∧ ∃ cause, fs.unlisted dir = some cause ∧ e = .io cause)) ∧
    (fs.isDir dir = true → fs.unlisted dir = none →
      ∃ dirs, discover fs config dir = .ok dirs ∧ ListsTasks fs config.taskFile dir dirs) ∧
    ∀ fs' : FileSystem, fs'.root.WellNamed → fs.root.Alike fs'.root →
      fs.workingDir = fs'.workingDir → fs'.unlisted dir = fs.unlisted dir →
      discover fs' config dir = discover fs config dir := by
  refine ⟨fun e => discover_eq_error_iff, fun isDir listed => ?_,
    fun fs' wellNamed' alike same errors => ?_⟩
  · obtain ⟨dirs, found⟩ := exists_discover config isDir listed
    exact ⟨dirs, found, listsTasks_of_discover wellNamed found⟩
  · exact discover_of_alike wellNamed wellNamed' alike same errors config

end Discovery

/-- A task that holds another, one whose file is a link, a link to a task, and a plain file. -/
def mixed : Entries :=
  .cons "b" (.dir (.cons "task.yaml" (.file []) (.cons "a" taskNode .nil)))
    (.cons "a" (.dir (.cons "task.yaml" (.link "../b/task.yaml") .nil))
      (.cons "c" (.link "b") (.cons "d" (.file []) .nil)))

/-- The same in another order. -/
def mixedAgain : Entries :=
  .cons "d" (.file []) (.cons "c" (.link "b")
    (.cons "a" (.dir (.cons "task.yaml" (.link "../b/task.yaml") .nil))
      (.cons "b" (.dir (.cons "task.yaml" (.file []) (.cons "a" taskNode .nil))) .nil)))

/-- A disk with a directory of these entries. -/
def diskOf (entries : Entries) : FileSystem where
  root := .dir (.cons "t" (.dir entries) .nil)
  workingDir := []

theorem diskOf_wellNamed {entries : Entries} (wellNamed : entries.WellNamed) :
    (diskOf entries).root.WellNamed :=
  ⟨by decide, rfl, wellNamed, trivial⟩

theorem diskOf_alike {entries entries' : Entries}
    (alike : (Node.dir entries).Alike (.dir entries')) :
    (diskOf entries).root.Alike (diskOf entries').root := by
  refine alike_dir fun name => ?_
  simp only [Entries.find?]
  split
  · exact .some alike
  · exact .none

theorem mixed_wellNamed : mixed.WellNamed := by
  have task : taskNode.WellNamed := ⟨by decide, rfl, trivial, trivial⟩
  have outer : (Node.dir (.cons "task.yaml" (.file []) (.cons "a" taskNode .nil))).WellNamed :=
    ⟨by decide, rfl, trivial, by decide, rfl, task, trivial⟩
  have linked : (Node.dir (.cons "task.yaml" (.link "../b/task.yaml") .nil)).WellNamed :=
    ⟨by decide, rfl, trivial, trivial⟩
  exact ⟨by decide, rfl, outer, by decide, rfl, linked, by decide, rfl, trivial, by decide, rfl,
    trivial, trivial⟩

theorem mixedAgain_wellNamed : mixedAgain.WellNamed := by
  obtain ⟨b, -, outer, a, -, linked, c, -, link, d, -, file, -⟩ := mixed_wellNamed
  exact ⟨d, rfl, file, c, rfl, link, a, rfl, linked, b, rfl, outer, trivial⟩

theorem mixed_discover : discover (diskOf mixed) {} "t" = .ok ["t/a", "t/b"] := by
  have tree : (diskOf mixed).directory? "t" = some mixed := rfl
  have kept : (mixed.toList.filter fun entry => entry.2.isDir &&
      (diskOf mixed).isFile (Path.join (Path.join "t" entry.1) "task.yaml")).map (·.1) =
        ["b", "a"] := by
    decide +kernel
  have sorted : (["b", "a"].mergeSort fun a b => a ≤ b) = ["a", "b"] := by
    simp [List.mergeSort]
  have listed : (diskOf mixed).unlisted "t" = none := rfl
  unfold discover
  simp only [tree, listed, kept, sorted]
  decide

/-- The two tasks of the mixed entries, in either order. -/
theorem discover_spec_mixed :
    (diskOf mixed).root.WellNamed ∧ (diskOf mixedAgain).root.WellNamed ∧
      (diskOf mixed).root.Alike (diskOf mixedAgain).root ∧
      (diskOf mixed).isDir "t" = true ∧
      ListsTasks (diskOf mixed) "task.yaml" "t" ["t/a", "t/b"] ∧
      discover (diskOf mixedAgain) {} "t" = .ok ["t/a", "t/b"] := by
  have wellNamed := diskOf_wellNamed mixed_wellNamed
  have wellNamed' := diskOf_wellNamed mixedAgain_wellNamed
  have perm : mixed.toList.Perm mixedAgain.toList := (List.reverse_perm mixed.toList).symm
  have alike := diskOf_alike (alike_of_perm mixed_wellNamed mixedAgain_wellNamed perm)
  have isDir : (diskOf mixed).isDir "t" = true := rfl
  obtain ⟨-, lists, again⟩ := discover_spec wellNamed {} "t"
  obtain ⟨dirs, found, listed⟩ := lists isDir rfl
  rw [mixed_discover] at found
  cases found
  refine ⟨wellNamed, wellNamed', alike, isDir, listed, ?_⟩
  rw [again (diskOf mixedAgain) wellNamed' alike rfl rfl, mixed_discover]

end AgentTrial.Batch
