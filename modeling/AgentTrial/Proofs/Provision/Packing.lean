import AgentTrial.Proofs.FileSystem.Tree
import AgentTrial.Provision

/-!
# What an archive holds

The archive of a directory against the tree below it, for trees as a disk holds them.

* **Names** — a file is packed under the names that lead to it from the directory, whatever the path
  of the directory is (`entryName_pathBelow`).
* **Content** — so the archive has one entry for each regular file below the directory, with its
  bytes, and no other (`archive_holds`).
* **Packing** — packing hands over this archive or nothing, and a disk that never fails hands it
  over (`packing_eq_archive`, `packing_steady`).
-/

namespace AgentTrial.Provision

open FileSystem (Node Entries)

/-! ## Names -/

section Names

variable {dir : String} {names : List String}

/-- Names below a directory are the components that come after its own. -/
theorem components_pathBelow (all : ∀ name ∈ names, Path.IsName name) :
    Path.components (pathBelow dir names) = Path.components dir ++ names := by
  induction names generalizing dir with
  | nil => exact (List.append_nil _).symm
  | cons name names ih =>
      obtain ⟨first, rest⟩ := List.forall_mem_cons.mp all
      show Path.components (pathBelow (Path.join dir name) names) = _
      rw [ih rest, Path.components_join dir first, List.append_assoc]
      rfl

/-- A file is packed under the names that lead to it. -/
theorem entryName_pathBelow (all : ∀ name ∈ names, Path.IsName name) :
    entryName dir (pathBelow dir names) = "/".intercalate names := by
  have below : Path.relativeTo? dir (pathBelow dir names) = some names := by
    rw [Path.relativeTo?, components_pathBelow all, if_pos (List.prefix_append ..), List.drop_left]
  rw [entryName, below]

end Names

/-! ## Content -/

section Content

/-- The files that are listed below a directory, as the entries of an archive. -/
def pack (entries : Entries) : Archive :=
  entries.files.map fun (names, content) => ("/".intercalate names, content)

variable {entries : Entries} (wellNamed : entries.WellNamed) (dir : String)

theorem entryOf?_eq (below : List String × Node) :
    entryOf? dir below = (below.2.content?.map fun content => (below.1, content)).map fun file =>
      (entryName dir (pathBelow dir file.1), file.2) := by
  obtain ⟨names, node⟩ := below
  cases node <;> rfl

include wellNamed

/-- What is packed are the listed files. -/
theorem archive_eq_pack : archive dir entries = pack entries := by
  have listed : archive dir entries = entries.files.map fun file =>
      (entryName dir (pathBelow dir file.1), file.2) := by
    rw [archive, ← entries.filterMap_walk, List.map_filterMap]
    simp only [entryOf?_eq]
  rw [listed, pack, List.map_inj_left]
  intro ⟨names, content⟩ mem
  rw [entryName_pathBelow (entries.isName_of_mem_files names content wellNamed mem)]

/-- Listed files are packed under different names. -/
theorem intercalate_inj_of_mem {names names' : List String} {content content' : List UInt8}
    (mem : (names, content) ∈ entries.files) (mem' : (names', content') ∈ entries.files)
    (same : "/".intercalate names = "/".intercalate names') : names = names' := by
  have read := Path.steps_intercalate (entries.isName_of_mem_files names content wellNamed mem)
  have read' := Path.steps_intercalate (entries.isName_of_mem_files names' content' wellNamed mem')
  rw [← read, ← read', same]

end Content

/-- An archive holds the regular files below a directory and nothing else. -/
structure Archive.Holds (packed : Archive) (entries : Entries) : Prop where
  /-- Its entries are the files that are found below the directory, each under the names that lead to
  it and with its bytes. -/
  mem_iff : ∀ path content, (path, content) ∈ packed ↔
    ∃ names, path = "/".intercalate names ∧ entries.file? names = some content
  /-- Every file has one entry, … -/
  once : ∀ names content, entries.file? names = some content →
    (packed.map (·.1)).count ("/".intercalate names) = 1
  /-- … and it is not that of another file. -/
  apart : ∀ names names' content content', entries.file? names = some content →
    entries.file? names' = some content' → "/".intercalate names = "/".intercalate names' →
      names = names'
  /-- No name is absolute, and none leads up. -/
  relative : ∀ entry ∈ packed, Path.isAbsolute entry.1 = false ∧ ".." ∉ Path.parts entry.1

/-- The names of a packed file are those that lead to it. -/
theorem parts_of_file? {entries : Entries} {names : List String} {content : List UInt8}
    (wellNamed : entries.WellNamed) (found : entries.file? names = some content) :
    Path.parts ("/".intercalate names) = names ∧ ∀ name ∈ names, Path.IsName name := by
  have all := entries.isName_of_mem_files names content wellNamed
    ((entries.mem_files_iff names wellNamed).mpr found)
  refine ⟨Path.parts_intercalate ?_ all, all⟩
  rintro rfl
  cases found

/-- **Content.** The archive of a directory holds the regular files below it. -/
theorem archive_holds {entries : Entries} (wellNamed : entries.WellNamed) (dir : String) :
    (archive dir entries).Holds entries := by
  have paths : (pack entries).map (·.1) = (entries.files.map (·.1)).map ("/".intercalate ·) := by
    rw [pack, List.map_map, List.map_map]
    rfl
  have mem_iff (path : String) (content : List UInt8) : (path, content) ∈ pack entries ↔
      ∃ names, path = "/".intercalate names ∧ entries.file? names = some content := by
    simp only [← entries.mem_files_iff _ wellNamed]
    rw [pack, List.mem_map]
    constructor
    · rintro ⟨⟨names, bytes⟩, listed, same⟩
      obtain ⟨rfl, rfl⟩ := Prod.mk.inj same
      exact ⟨names, rfl, listed⟩
    · rintro ⟨names, rfl, listed⟩
      exact ⟨(names, content), listed, rfl⟩
  rw [archive_eq_pack wellNamed]
  refine ⟨mem_iff, fun names content found => ?_, ?_, fun entry mem => ?_⟩
  · have listed := (mem_iff _ content).mpr ⟨names, rfl, found⟩
    refine List.count_eq_one_of_mem ?_ (List.mem_map_of_mem (f := Prod.fst) listed)
    rw [paths]
    refine (entries.files_nodup wellNamed).map_on ?_
    intro names mem names' mem' same
    obtain ⟨⟨_, content⟩, listed, rfl⟩ := List.mem_map.mp mem
    obtain ⟨⟨_, content'⟩, listed', rfl⟩ := List.mem_map.mp mem'
    exact intercalate_inj_of_mem wellNamed listed listed' same
  · intro names names' content content' found found' same
    exact intercalate_inj_of_mem wellNamed ((entries.mem_files_iff names wellNamed).mpr found)
      ((entries.mem_files_iff names' wellNamed).mpr found') same
  · obtain ⟨names, path, found⟩ := (mem_iff entry.1 entry.2).mp mem
    obtain ⟨parts, all⟩ := parts_of_file? wellNamed found
    rw [path, parts]
    refine ⟨?_, fun up => (all ".." up).notUp rfl⟩
    rw [← Bool.not_eq_true]
    intro absolute
    exact (all "" (parts ▸ Path.empty_mem_parts absolute)).nonempty rfl

/-! ## Packing -/

section Packing

variable {scratch : Scratch} {dir : String} {entries : Entries} {packed : Archive}

theorem andThen_eq_value {ε α β : Type} {ending : Ending ε α} {next : α → Ending ε β} {b : β} :
    ending.andThen next = .value b ↔ ∃ a, ending = .value a ∧ next a = .value b := by
  cases ending <;> simp [Ending.andThen]

/-- A row of nodes that is packed is packed entry by entry. -/
theorem fill_eq_value {nodes : List (List String × Node)}
    (h : fill scratch dir nodes = .value packed) : packed = nodes.filterMap (entryOf? dir) := by
  induction nodes generalizing packed with
  | nil =>
      obtain ⟨-, -, last⟩ := andThen_eq_value.mp h
      cases last
      rfl
  | cons node rest ih =>
      obtain ⟨names, node⟩ := node
      obtain ⟨-, -, visited⟩ := andThen_eq_value.mp h
      rw [List.filterMap_cons]
      cases entry : entryOf? dir (names, node) with
      | none =>
          rw [entry] at visited
          exact ih visited
      | some entry' =>
          rw [entry] at visited
          obtain ⟨-, -, appended⟩ := andThen_eq_value.mp visited
          obtain ⟨others, filled, last⟩ := andThen_eq_value.mp appended
          cases last
          rw [ih filled]

/-- **Packing.** What packing hands over is the archive of the directory. -/
theorem packing_eq_archive (h : packing scratch dir entries = .value packed) :
    packed = archive dir entries := by
  obtain ⟨-, -, opened⟩ := andThen_eq_value.mp h
  obtain ⟨-, -, filled⟩ := andThen_eq_value.mp opened
  exact fill_eq_value filled

theorem fill_steady (dir : String) (nodes : List (List String × Node)) :
    fill .steady dir nodes = .value (nodes.filterMap (entryOf? dir)) := by
  induction nodes with
  | nil => rfl
  | cons node rest ih =>
      obtain ⟨names, node⟩ := node
      rw [fill, List.filterMap_cons, ih]
      cases entryOf? dir (names, node) <;> rfl

/-- A disk that never fails hands it over. -/
theorem packing_steady (dir : String) (entries : Entries) :
    packing .steady dir entries = .value (archive dir entries) :=
  fill_steady dir entries.walk

/-- What is told of packing is the archive of the directory, or an error. -/
theorem Scratch.told_packing (scratch : Scratch) (dir : String) (entries : Entries) :
    (scratch.told (packing scratch dir entries) = .value (archive dir entries) ∧
      (packing scratch dir entries).isValue = true) ∨
      ∃ text, scratch.told (packing scratch dir entries) = .error (.provision text) ∧
        (packing scratch dir entries).isValue = false := by
  cases ending : packing scratch dir entries with
  | value packed =>
      rw [packing_eq_archive ending]
      exact .inl ⟨rfl, rfl⟩
  | error e => exact .inr ⟨_, rfl, rfl⟩
  | crash p => exact .inr ⟨_, rfl, rfl⟩

/-- Packing leaves one file more if it hands over an archive, and as many as before if not. -/
theorem packingFiles_eq (files : Nat) : packingFiles scratch dir entries files =
    files + if (packing scratch dir entries).isValue then 1 else 0 := by
  unfold packingFiles packing
  cases scratch.create with
  | value =>
      cases scratch.reopen with
      | value =>
          dsimp only [Ending.andThen]
          cases fill scratch dir entries.walk <;> rfl
      | error e => rfl
      | crash p => rfl
  | error e => rfl
  | crash p => rfl

end Packing

end AgentTrial.Provision
