import AgentTrial.Proofs.FileSystem.Lookup
import Mathlib.Data.Option.Basic

/-!
# Trees that hold the same

A directory has no order of its own: a disk may list its entries in any. What a path leads to depends
on the names in a tree and on what kinds of nodes they lead to, and on nothing else.

* **Alike** — trees are alike if the same names lead to nodes of the same kinds. The entries of a
  directory may be listed in another order (`alike_of_perm`), at every level of the tree
  (`alike_dir`).
* **Paths** — in alike trees a path goes to the same place, through the same links
  (`walk_outline`), so it leads to a file, or to a directory, in the one if it does in the other
  (`isFile_of_alike`, `directory?_alike`).
-/

namespace AgentTrial.FileSystem

/-- What a node is, apart from what it holds. -/
inductive Kind where
  | file
  | link (target : String)
  | dir
  deriving DecidableEq

def Node.kind : Node → Kind
  | .file _ => .file
  | .link target => .link target
  | .dir _ => .dir

/-- The same names lead to nodes of the same kinds. -/
def Node.Alike (node node' : Node) : Prop :=
  ∀ names, (node.find? names).map Node.kind = (node'.find? names).map Node.kind

/-! ## Alike -/

section Alike

variable {node node' found : Node} {entries entries' : Entries} {names : List String}

theorem Node.Alike.symm (alike : node.Alike node') : node'.Alike node :=
  fun names => (alike names).symm

theorem Node.Alike.kind_eq (alike : node.Alike node') : node.kind = node'.kind := by
  simpa [Node.find?] using alike []

/-- What is not there, a file, a link or a directory is so in both. -/
theorem kind_cases {a b : Option Node} (same : a.map Node.kind = b.map Node.kind) :
    (a = none ∧ b = none) ∨ (∃ c c', a = some (.file c) ∧ b = some (.file c')) ∨
      (∃ target, a = some (.link target) ∧ b = some (.link target)) ∨
      ∃ entries entries', a = some (.dir entries) ∧ b = some (.dir entries') := by
  rcases a with _ | ⟨_ | _ | _⟩ <;> rcases b with _ | ⟨_ | _ | _⟩ <;>
    simp_all [Node.kind]

theorem Node.find?_append (node : Node) (names more : List String) :
    node.find? (names ++ more) = (node.find? names).bind (·.find? more) := by
  induction names generalizing node with
  | nil => rfl
  | cons name names ih =>
      cases node with
      | dir entries =>
          rw [List.cons_append, Node.find?, Node.find?, Option.bind_assoc]
          exact congrArg _ (funext ih)
      | _ => rfl

/-- What the same names lead to is alike. -/
theorem Node.Alike.find? (alike : node.Alike node') (here : node.find? names = some found) :
    ∃ found', node'.find? names = some found' ∧ found.Alike found' := by
  have same := alike names
  rw [here, Option.map_some] at same
  obtain ⟨found', here', -⟩ := Option.map_eq_some_iff.mp same.symm
  refine ⟨found', here', fun more => ?_⟩
  have further := alike (names ++ more)
  rwa [Node.find?_append, Node.find?_append, here, here'] at further

theorem Node.Alike.entry (alike : (Node.dir entries).Alike (.dir entries')) (name : String) :
    (entries.find? name).map Node.kind = (entries'.find? name).map Node.kind := by
  have same := alike [name]
  simpa [Node.find?, Option.bind_some] using same

/-- Directories are alike whose entries are. -/
theorem alike_dir
    (same : ∀ name, Option.Rel Node.Alike (entries.find? name) (entries'.find? name)) :
    (Node.dir entries).Alike (.dir entries') := by
  intro names
  cases names with
  | nil => rfl
  | cons name names =>
      have here := same name
      rw [Node.find?, Node.find?]
      generalize entries.find? name = a, entries'.find? name = b at here ⊢
      cases here with
      | none => rfl
      | some alike => exact alike names

theorem alike_refl (node : Node) : node.Alike node := fun _ => rfl

/-- The order in which entries are listed does not matter. -/
theorem alike_of_perm (wellNamed : entries.WellNamed) (wellNamed' : entries'.WellNamed)
    (perm : entries.toList.Perm entries'.toList) : (Node.dir entries).Alike (.dir entries') := by
  have same : ∀ name, entries.find? name = entries'.find? name := by
    refine fun name => Option.ext fun node => ?_
    rw [← wellNamed.mem_toList_iff, ← wellNamed'.mem_toList_iff, perm.mem_iff]
  refine alike_dir fun name => ?_
  rw [same name]
  cases entries'.find? name with
  | none => exact .none
  | some node => exact .some (alike_refl node)

end Alike

/-! ## Paths -/

/-- Where a path leads, apart from what is there. -/
def Spot.outline : Spot → List String × Option String
  | .found place _ => (place, none)
  | .missing within name => (within, some name)

section Walking

variable {root root' : Node} {follow : Bool} {end' : List String} {node : Node}

/-- What a walk finds is what the names of the place lead to. -/
theorem walkBy_found {jump : List String → List String → Except FileError Spot}
    (jumps : ∀ place names end' node,
      jump place names = .ok (.found end' node) → root.find? end'.reverse = some node)
    (place names : List String) (h : walkBy root follow jump place names = .ok (.found end' node)) :
    root.find? end'.reverse = some node := by
  induction names generalizing place with
  | nil =>
      rw [walkBy] at h
      split at h
      · rename_i found here
        cases h
        exact here
      · cases h
  | cons name names ih =>
      rw [walkBy] at h
      split at h
      · rename_i entries here
        split at h
        · exact ih place h
        split at h
        · exact ih _ h
        split at h
        · cases h
        split at h
        · split at h <;> cases h
        · rename_i target below
          split at h
          · cases h
            rw [List.reverse_cons, Node.find?_append, here]
            simp [Node.find?, below]
          · exact jumps _ _ _ _ h
        · exact ih _ h
      · cases h
      · cases h

theorem walk_found (links : Nat) (place names end' : List String) (node : Node)
    (h : walk root follow links place names = .ok (.found end' node)) :
    root.find? end'.reverse = some node := by
  induction links generalizing place names end' node with
  | zero => exact walkBy_found (fun _ _ _ _ h => by cases h) place names h
  | succ links ih => exact walkBy_found ih place names h

theorem walkBy_outline (alike : root.Alike root')
    {jump jump' : List String → List String → Except FileError Spot}
    (jumps : ∀ place names,
      (jump place names).map Spot.outline = (jump' place names).map Spot.outline)
    (place names : List String) :
    (walkBy root follow jump place names).map Spot.outline =
      (walkBy root' follow jump' place names).map Spot.outline := by
  -- a step depends on the kind of the node at the place, and in a directory on that of the entry
  induction names generalizing place with
  | nil =>
      rw [walkBy, walkBy]
      rcases kind_cases (alike place.reverse) with
        ⟨here, here'⟩ | ⟨_, _, here, here'⟩ | ⟨target, here, here'⟩ | ⟨_, _, here, here'⟩ <;>
      rw [here, here'] <;> rfl
  | cons name names ih =>
      rw [walkBy, walkBy]
      rcases kind_cases (alike place.reverse) with
        ⟨here, here'⟩ | ⟨_, _, here, here'⟩ | ⟨target, here, here'⟩ |
          ⟨entries, entries', here, here'⟩
      · rw [here, here']
      · rw [here, here']
      · rw [here, here']
      · obtain ⟨_, found, below⟩ := alike.find? here
        obtain rfl := Option.some.inj (here'.symm.trans found)
        have entry := below.entry name
        rw [here, here']
        simp only
        split
        · exact ih place
        split
        · exact ih _
        split
        · rfl
        rcases kind_cases entry with
          ⟨there, there'⟩ | ⟨_, _, there, there'⟩ | ⟨target, there, there'⟩ | ⟨_, _, there, there'⟩
        · rw [there, there']
        · rw [there, there']
          exact ih _
        · rw [there, there']
          simp only
          split
          · rfl
          · exact jumps _ _
        · rw [there, there']
          exact ih _

/-- A path goes to the same place in alike trees. -/
theorem walk_outline (alike : root.Alike root') (links : Nat) (place names : List String) :
    (walk root follow links place names).map Spot.outline =
      (walk root' follow links place names).map Spot.outline := by
  induction links generalizing place names with
  | zero => exact walkBy_outline alike (fun _ _ => rfl) place names
  | succ links ih => exact walkBy_outline alike ih place names

end Walking

section Lookups

variable {fs fs' : FileSystem} {path : String} {node : Node} {entries : Entries}

theorem locate_found {place : List String} (h : fs.locate true path = .ok (.found place node)) :
    fs.root.find? place.reverse = some node := by
  unfold locate at h
  split at h
  · cases h
  split at h
  · cases h
  split at h
  · cases h
  · exact walk_found _ _ _ _ _ h

theorem node?_eq_ok_iff :
    fs.node? path = .ok node ↔ ∃ place, fs.locate true path = .ok (.found place node) := by
  unfold node?
  rcases fs.locate true path with e | ⟨place, found⟩ | ⟨within, name⟩ <;> simp

variable (alike : fs.root.Alike fs'.root) (same : fs.workingDir = fs'.workingDir)

include alike same

theorem locate_outline (follow : Bool) (path : String) :
    (fs.locate follow path).map Spot.outline = (fs'.locate follow path).map Spot.outline := by
  unfold locate
  rw [same]
  split
  · rfl
  split
  · rfl
  split
  · rfl
  · exact walk_outline alike _ _ _

/-- A path leads to alike nodes. -/
theorem node?_alike (here : fs.node? path = .ok node) :
    ∃ node', fs'.node? path = .ok node' ∧ node.Alike node' := by
  obtain ⟨place, located⟩ := node?_eq_ok_iff.mp here
  obtain ⟨node', found, similar⟩ := alike.find? (locate_found located)
  refine ⟨node', node?_eq_ok_iff.mpr ⟨place, ?_⟩, similar⟩
  have outline := locate_outline alike same true path
  rw [located] at outline
  rcases there : fs'.locate true path with e | ⟨place', other⟩ | ⟨within, name⟩ <;>
    rw [there] at outline <;> cases outline
  -- the other path ends at the same place, where there is the alike node
  rw [locate_found there] at found
  rw [Option.some.inj found]

theorem directory?_alike (here : fs.directory? path = some entries) :
    ∃ entries', fs'.directory? path = some entries' ∧
      (Node.dir entries).Alike (.dir entries') := by
  unfold directory? at here
  split at here
  · rename_i found
    cases here
    obtain ⟨node', found', similar⟩ := node?_alike alike same found
    have kinds := similar.kind_eq
    cases node' with
    | dir entries' => exact ⟨entries', by rw [directory?, found'], similar⟩
    | file | link => cases kinds
  · cases here

theorem isDir_of_alike (dir : fs.isDir path = true) : fs'.isDir path = true := by
  obtain ⟨entries, here⟩ := Option.isSome_iff_exists.mp dir
  obtain ⟨entries', here', -⟩ := directory?_alike alike same here
  exact Option.isSome_iff_exists.mpr ⟨entries', here'⟩

theorem isFile_of_alike (file : fs.isFile path = true) : fs'.isFile path = true := by
  obtain ⟨content, here⟩ := isFile_iff.mp file
  obtain ⟨node', here', similar⟩ := node?_alike alike same here
  have kinds := similar.kind_eq
  cases node' with
  | file content' => exact isFile_iff.mpr ⟨content', here'⟩
  | link | dir => cases kinds

end Lookups

end AgentTrial.FileSystem
