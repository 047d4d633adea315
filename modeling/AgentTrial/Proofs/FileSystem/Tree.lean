import Mathlib.Data.List.Nodup
import AgentTrial.FileSystem.Node
import AgentTrial.Proofs.Path

/-!
# Files of a tree

The listing of a file tree against what its names lead to.

* **Names** — in a tree as a disk holds it, entries have names, and no two of a directory the same
  one (`Node.WellNamed`), so the entries that are listed are those that are found
  (`Entries.WellNamed.mem_toList_iff`).
* **Listing** — then the listed files are those that are found, each under its own names
  (`Node.mem_files_iff`, `Node.isName_of_mem_files`) and once (`Node.files_nodup`).
* **Walking** — the regular files among all that is below a directory are its listed files
  (`Entries.filterMap_walk`).
-/

namespace AgentTrial.FileSystem

mutual

/-- In every directory of the tree the entries have names, and each its own. -/
def Node.WellNamed : Node → Prop
  | .file _ => True
  | .link _ => True
  | .dir entries => entries.WellNamed

/-- The entries have names, each its own, and so it is below them. -/
def Entries.WellNamed : Entries → Prop
  | .nil => True
  | .cons name node rest =>
    Path.IsName name ∧ rest.find? name = none ∧ node.WellNamed ∧ rest.WellNamed

end

theorem Entries.WellNamed.isName {entries : Entries} (h : entries.WellNamed) {name : String}
    {node : Node} (mem : (name, node) ∈ entries.toList) : Path.IsName name := by
  induction entries using Entries.toList.induct with
  | case1 => cases mem
  | case2 first below rest ih =>
      obtain ⟨isName, -, -, beside⟩ := h
      rcases List.mem_cons.mp mem with same | later
      · obtain ⟨rfl, rfl⟩ := Prod.mk.inj same
        exact isName
      · exact ih beside later

theorem Entries.WellNamed.find? {entries : Entries} (h : entries.WellNamed) {name : String}
    {node : Node} (found : entries.find? name = some node) : node.WellNamed := by
  induction entries using Entries.toList.induct with
  | case1 => cases found
  | case2 first below rest ih =>
      obtain ⟨-, -, here, beside⟩ := h
      rw [Entries.find?] at found
      split at found
      · cases found
        exact here
      · exact ih beside found

theorem Entries.mem_toList_of_find? {entries : Entries} {name : String} {node : Node}
    (found : entries.find? name = some node) : (name, node) ∈ entries.toList := by
  induction entries using Entries.toList.induct with
  | case1 => cases found
  | case2 first below rest ih =>
      rw [Entries.find?] at found
      split at found
      · rename_i same
        cases found
        exact same ▸ List.mem_cons_self
      · exact List.mem_cons_of_mem _ (ih found)

/-- What is listed in a directory of such a tree is what is found in it. -/
theorem Entries.WellNamed.mem_toList_iff {entries : Entries} (h : entries.WellNamed)
    {name : String} {node : Node} :
    (name, node) ∈ entries.toList ↔ entries.find? name = some node := by
  refine ⟨fun mem => ?_, Entries.mem_toList_of_find?⟩
  induction entries using Entries.toList.induct with
  | case1 => cases mem
  | case2 first below rest ih =>
      obtain ⟨-, absent, -, beside⟩ := h
      rw [Entries.find?]
      rcases List.mem_cons.mp mem with same | later
      · obtain ⟨rfl, rfl⟩ := Prod.mk.inj same
        rw [if_pos rfl]
      · have found := ih beside later
        rw [if_neg, found]
        rintro rfl
        rw [absent] at found
        cases found

/-- No name is listed twice. -/
theorem Entries.WellNamed.nodup {entries : Entries} (h : entries.WellNamed) :
    (entries.toList.map (·.1)).Nodup := by
  induction entries using Entries.toList.induct with
  | case1 => exact List.nodup_nil
  | case2 first below rest ih =>
      obtain ⟨-, absent, -, beside⟩ := h
      refine List.nodup_cons.mpr ⟨fun mem => ?_, ih beside⟩
      obtain ⟨⟨name, node⟩, listed, same⟩ := List.mem_map.mp mem
      obtain rfl : name = first := same
      rw [beside.mem_toList_iff.mp listed] at absent
      cases absent

/-- So it is below every node of such a tree. -/
theorem Node.WellNamed.find? {node found : Node} (h : node.WellNamed) {names : List String}
    (here : node.find? names = some found) : found.WellNamed := by
  induction names generalizing node with
  | nil =>
      obtain rfl : node = found := by simpa [Node.find?] using here
      exact h
  | cons name names ih =>
      cases node with
      | file | link => cases here
      | dir entries =>
          obtain ⟨below, first, later⟩ := Option.bind_eq_some_iff.mp here
          exact ih (Entries.WellNamed.find? h first) later

/-- The file that names lead to from a node. -/
def Node.file? (node : Node) (names : List String) : Option (List UInt8) :=
  match node.find? names with
  | some (.file content) => some content
  | _ => none

/-- The file that names lead to below the entries of a directory. -/
def Entries.file? (entries : Entries) (names : List String) : Option (List UInt8) :=
  (Node.dir entries).file? names

section Listing

variable {names : List String} {content : List UInt8}

mutual

theorem Node.isName_of_mem_files (node : Node) (names : List String) (content : List UInt8)
    (wellNamed : node.WellNamed) (mem : (names, content) ∈ node.files) :
    ∀ name ∈ names, Path.IsName name := by
  cases node with
  | file bytes =>
      obtain ⟨rfl, -⟩ := Prod.mk.inj (List.mem_singleton.mp mem)
      exact nofun
  | link target => cases mem
  | dir entries => exact Entries.isName_of_mem_files entries names content wellNamed mem

/-- A listed file is reached by names. -/
theorem Entries.isName_of_mem_files (entries : Entries) (names : List String)
    (content : List UInt8) (wellNamed : entries.WellNamed)
    (mem : (names, content) ∈ entries.files) : ∀ name ∈ names, Path.IsName name := by
  cases entries with
  | nil => cases mem
  | cons first node rest =>
      obtain ⟨isName, -, below, beside⟩ := wellNamed
      rcases List.mem_append.mp mem with here | later
      · obtain ⟨⟨tail, bytes⟩, listed, same⟩ := List.mem_map.mp here
        have others := Node.isName_of_mem_files node tail bytes below listed
        obtain ⟨rfl, rfl⟩ := Prod.mk.inj same
        exact List.forall_mem_cons.mpr ⟨isName, others⟩
      · exact Entries.isName_of_mem_files rest names content beside later

end

/-- Below the first entry, or below the others. -/
theorem Entries.file?_cons (first : String) (node : Node) (rest : Entries) (name : String) :
    (Entries.cons first node rest).file? (name :: names) =
      if first = name then node.file? names else rest.file? (name :: names) := by
  by_cases same : first = name <;>
    simp [Entries.file?, Node.file?, Node.find?, Entries.find?, same]

theorem Entries.file?_of_find?_eq_none {entries : Entries} {name : String}
    (absent : entries.find? name = none) : entries.file? (name :: names) = none := by
  simp [Entries.file?, Node.file?, Node.find?, absent]

mutual

theorem Node.mem_files_iff (node : Node) (names : List String) (wellNamed : node.WellNamed) :
    (names, content) ∈ node.files ↔ node.file? names = some content := by
  cases node with
  | file bytes => cases names <;> simp [Node.files, Node.file?, Node.find?, eq_comm]
  | link target => cases names <;> simp [Node.files, Node.file?, Node.find?]
  | dir entries => exact Entries.mem_files_iff entries names wellNamed

/-- **Listing.** The listed files are those that are found. -/
theorem Entries.mem_files_iff (entries : Entries) (names : List String)
    (wellNamed : entries.WellNamed) :
    (names, content) ∈ entries.files ↔ entries.file? names = some content := by
  cases entries with
  | nil =>
      cases names <;> simp [Entries.files, Entries.file?, Node.file?, Node.find?, Entries.find?]
  | cons first node rest =>
      obtain ⟨-, absent, below, beside⟩ := wellNamed
      have later := Entries.mem_files_iff rest names beside
      rw [Entries.files, List.mem_append, later]
      cases names with
      | nil => simp [Entries.file?, Node.file?, Node.find?]
      | cons name names =>
          have here := Node.mem_files_iff node names below
          rw [Entries.file?_cons]
          by_cases same : first = name
          · subst same
            have none : rest.file? (first :: names) = none := Entries.file?_of_find?_eq_none absent
            simp [← here, none]
          · simp [same]

end

mutual

theorem Node.files_nodup (node : Node) (wellNamed : node.WellNamed) :
    (node.files.map (·.1)).Nodup := by
  cases node with
  | file bytes => exact List.nodup_singleton _
  | link target => exact List.nodup_nil
  | dir entries => exact Entries.files_nodup entries wellNamed

/-- No file is listed twice. -/
theorem Entries.files_nodup (entries : Entries) (wellNamed : entries.WellNamed) :
    (entries.files.map (·.1)).Nodup := by
  cases entries with
  | nil => exact List.nodup_nil
  | cons first node rest =>
      obtain ⟨-, absent, below, beside⟩ := wellNamed
      rw [Entries.files, List.map_append, List.nodup_append', List.map_map]
      refine ⟨?_, Entries.files_nodup rest beside, ?_⟩
      · -- what is below the first entry keeps its names, behind one more
        have kept := (Node.files_nodup node below).map (List.cons_injective (a := first))
        rwa [List.map_map] at kept
      · intro names here later
        obtain ⟨⟨tail, content⟩, -, rfl⟩ := List.mem_map.mp here
        obtain ⟨⟨names, content⟩, listed, same⟩ := List.mem_map.mp later
        obtain rfl : names = first :: tail := same
        have found := (Entries.mem_files_iff rest (first :: tail) beside).mp listed
        rw [Entries.file?_of_find?_eq_none absent] at found
        cases found

end

end Listing

/-! ## Walking -/

/-- The bytes of a regular file. -/
def Node.content? : Node → Option (List UInt8)
  | .file content => some content
  | _ => none

mutual

theorem Node.filterMap_walk (node : Node) :
    (node.content?.map fun content => ([], content)).toList ++
      node.walk.filterMap (fun below => below.2.content?.map fun content => (below.1, content)) =
        node.files := by
  cases node with
  | file bytes => rfl
  | link target => rfl
  | dir entries => exact Entries.filterMap_walk entries

/-- **Walking.** The regular files below a directory are those that are listed. -/
theorem Entries.filterMap_walk (entries : Entries) :
    entries.walk.filterMap
      (fun below => below.2.content?.map fun content => (below.1, content)) = entries.files := by
  cases entries with
  | nil => rfl
  | cons first node rest =>
      have here := Node.filterMap_walk node
      have later := Entries.filterMap_walk rest
      rw [Entries.walk, Entries.files, ← here, ← later, List.filterMap_append, List.filterMap_cons,
        List.filterMap_map, List.map_append, List.map_filterMap]
      -- the entry itself comes first if it is a file
      cases node <;> simp [Node.content?, Node.walk, Function.comp_def]

end

end AgentTrial.FileSystem
