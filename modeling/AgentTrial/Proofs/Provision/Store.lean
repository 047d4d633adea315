import AgentTrial.Proofs.FileSystem.Tree
import AgentTrial.Proofs.Shell.Layers
import AgentTrial.Provision
import Mathlib.Logic.Function.Basic

/-!
# What uploads leave in a sandbox

The files of a sandbox as calls act on them, where every call does what it is for.

* **Store** — a file is written, removed or unpacked at the names that lead to it, and nothing else
  changes. A command is read as the shell reads it (`Store.run`).
* **Calls** — `Store.after` is what a call leaves, `Store.left` what a row of calls leaves.
* **Packing** — to unpack the archive of a directory is to copy the directory (`Store.unpack_pack`).
-/

namespace AgentTrial.Provision

open FileSystem (Entries)

/-- What a file of a sandbox holds. -/
inductive Stored where
  | bytes (content : List UInt8)
  /-- A packed archive, with the path and the content of each of its entries. -/
  | archive (entries : List (String × List UInt8))
  deriving DecidableEq

/-- The files of a sandbox, each under the names that lead to it. -/
abbrev Store := List String → Option Stored

/-- The test file that lies at a place when the entries lie below the names `base`. -/
def testFile? (base : List String) (entries : Entries) (place : List String) :
    Option (List UInt8) :=
  if base <+: place then entries.file? (place.drop base.length) else none

namespace Store

def empty : Store := fun _ => none

/-- Writes a file, over what may be there. -/
def write (store : Store) (place : List String) (stored : Stored) : Store :=
  Function.update store place (some stored)

def remove (store : Store) (place : List String) : Store := Function.update store place none

/-- Copies every regular file of a directory to the same names below `base`. -/
def copy (store : Store) (base : List String) (entries : Entries) : Store := fun place =>
  match testFile? base entries place with
  | some content => some (.bytes content)
  | none => store place

/-- Writes files one after another. -/
def writeAll (store : Store) (files : List (List String × Stored)) : Store :=
  files.foldl (fun store file => store.write file.1 file.2) store

/-- Writes every entry of an archive below `base`. -/
def unpack (store : Store) (base : List String) (entries : List (String × List UInt8)) : Store :=
  store.writeAll (entries.map fun entry => (base ++ Path.steps entry.1, .bytes entry.2))

/-- Runs a command of which the words are known. Directories that are made hold no file. -/
def execute (store : Store) : List String → Store
  | ["tar", "-xzf", archive, "-C", dir] =>
    match store (Path.steps archive) with
    | some (.archive entries) => store.unpack (Path.steps dir) entries
    | _ => store
  | ["rm", "-f", path] => store.remove (Path.steps path)
  | _ => store

/-- Runs the text of a command, one simple command after another. -/
def run (store : Store) (text : String) : Store :=
  ((Shell.read? text).getD []).foldl
    (fun store command => store.execute ((command.1.words.mapM Shell.Word.text?).getD [])) store

/-- What a call that succeeds leaves. -/
def after (fs : FileSystem) (store : Store) : Call → Store
  | .run command _ _ _ => store.run command
  | .uploadFile (.archive entries) remote => store.write (Path.steps remote) (.archive entries)
  | .uploadFile (.file path) remote =>
    match fs.node? path with
    | .ok (.file content) => store.write (Path.steps remote) (.bytes content)
    | _ => store
  | .uploadDir dir remote =>
    match fs.directory? dir with
    | some entries => store.copy (Path.steps remote) entries
    | none => store
  | _ => store

/-- What calls that succeed leave in a sandbox without files. -/
def left (fs : FileSystem) (calls : List Call) : Store := calls.foldl (after fs) empty

end Store

namespace Store

variable {store : Store} {place : List String}

theorem write_apply (store : Store) (place other : List String) (stored : Stored) :
    store.write place stored other = if other = place then some stored else store other :=
  Function.update_apply ..

theorem remove_apply (store : Store) (place other : List String) :
    store.remove place other = if other = place then none else store other :=
  Function.update_apply ..

theorem writeAll_of_notMem {files : List (List String × Stored)}
    (none : ∀ stored, (place, stored) ∉ files) : store.writeAll files place = store place := by
  induction files generalizing store with
  | nil => rfl
  | cons file rest ih =>
      have apart : place ≠ file.1 := fun same => none file.2 (same ▸ List.mem_cons_self)
      have later : (store.write file.1 file.2).writeAll rest place = _ :=
        ih fun stored mem => none stored (List.mem_cons_of_mem _ mem)
      exact later.trans (by rw [write_apply, if_neg apart])

/-- Files that are written to one place with one content are there afterwards. -/
theorem writeAll_of_mem {files : List (List String × Stored)} {stored : Stored}
    (mem : (place, stored) ∈ files) (only : ∀ other, (place, other) ∈ files → other = stored) :
    store.writeAll files place = some stored := by
  induction files generalizing store with
  | nil => cases mem
  | cons file rest ih =>
      have below : ∀ other, (place, other) ∈ rest → other = stored := fun other mem =>
        only other (List.mem_cons_of_mem _ mem)
      show (store.write file.1 file.2).writeAll rest place = _
      by_cases later : (place, stored) ∈ rest
      · exact ih later below
      · have last : file = (place, stored) := ((List.mem_cons.mp mem).resolve_right later).symm
        have none : ∀ other, (place, other) ∉ rest := fun other mem => later (below other mem ▸ mem)
        rw [writeAll_of_notMem none, last, write_apply, if_pos rfl]

end Store

/-! ## Commands -/

/-- The words of a command of texts are these texts. -/
theorem mapM_text?_ofTexts (texts : List String) :
    (Shell.Command.ofTexts texts).words.mapM Shell.Word.text? = some texts := by
  show (texts.map Shell.Word.ofText).mapM _ = _
  induction texts with
  | nil => rfl
  | cons text texts ih => simp [List.mapM_cons, Shell.Word.text?_ofText, ih]

/-- Making a directory leaves the files as they are. -/
theorem Store.run_makeDirCommand (store : Store) (remoteDir : String) :
    store.run (makeDirCommand remoteDir) = store := by
  rw [run, Shell.read_makeDirCommand]
  simp only [Option.getD_some, List.foldl_cons, List.foldl_nil, mapM_text?_ofTexts]
  rfl

/-- The archive is unpacked into the directory and removed. -/
theorem Store.run_extractCommand (store : Store) (remoteDir : String) :
    store.run (extractCommand remoteDir) =
      (match store (Path.steps (remoteArchive remoteDir)) with
        | some (.archive entries) => store.unpack (Path.steps remoteDir) entries
        | _ => store).remove (Path.steps (remoteArchive remoteDir)) := by
  rw [run, Shell.read_extractCommand]
  simp only [Option.getD_some, List.foldl_cons, List.foldl_nil, mapM_text?_ofTexts]
  rfl

/-! ## Packing -/

section Packing

variable {base : List String} {entries : Entries}

theorem testFile?_append (names : List String) :
    testFile? base entries (base ++ names) = entries.file? names := by
  rw [testFile?, if_pos (List.prefix_append ..), List.drop_left]

/-- The entries of a packed directory lie where its files do. -/
theorem mem_packed_iff (wellNamed : entries.WellNamed) {place : List String} {stored : Stored} :
    (place, stored) ∈
        (pack entries).map (fun entry => (base ++ Path.steps entry.1, Stored.bytes entry.2)) ↔
      ∃ content, testFile? base entries place = some content ∧ stored = .bytes content := by
  simp only [pack, List.map_map, List.mem_map, Function.comp_apply, Prod.mk.injEq]
  constructor
  · rintro ⟨⟨names, content⟩, listed, rfl, rfl⟩
    have read := Path.steps_intercalate (entries.isName_of_mem_files names content wellNamed listed)
    rw [read, testFile?_append]
    exact ⟨content, (entries.mem_files_iff names wellNamed).mp listed, rfl⟩
  · rintro ⟨content, found, rfl⟩
    unfold testFile? at found
    split at found
    · rename_i below
      obtain ⟨names, rfl⟩ := below
      rw [List.drop_left] at found
      have listed := (entries.mem_files_iff names wellNamed).mpr found
      have read := Path.steps_intercalate
        (entries.isName_of_mem_files names content wellNamed listed)
      exact ⟨(names, content), listed, by rw [read], rfl⟩
    · cases found

/-- **Packing.** To unpack the archive of a directory is to copy the directory. -/
theorem Store.unpack_pack (wellNamed : entries.WellNamed) (store : Store) :
    store.unpack base (pack entries) = store.copy base entries := by
  funext place
  unfold unpack copy
  cases found : testFile? base entries place with
  | none =>
      refine writeAll_of_notMem fun stored mem => ?_
      obtain ⟨content, here, -⟩ := (mem_packed_iff wellNamed).mp mem
      rw [found] at here
      cases here
  | some content =>
      refine writeAll_of_mem ((mem_packed_iff wellNamed).mpr ⟨content, found, rfl⟩) ?_
      intro other mem
      obtain ⟨bytes, here, rfl⟩ := (mem_packed_iff wellNamed).mp mem
      rw [found] at here
      cases here
      rfl

end Packing

end AgentTrial.Provision
