import AgentTrial.Config.Harness
import AgentTrial.Proofs.Dict
import AgentTrial.Proofs.Text.Pieces
import AgentTrial.Proofs.Text.Utf8

/-!
# Images of tasks

Which registry serves a task, and what stands in the name of its image.

* **Registry** — it is the override with the least bytes among those that list the task, and the
  default one if there is none (`registryFor_eq_iff`). So overrides that do not list the task make no
  difference (`registryFor_congr`).
* **Slashes** — a registry is given the slash that it lacks, once (`registrySlot_idem`).
* **Images** — the task is put between pieces that depend on the template and the registry alone
  (`image_references`).
-/

namespace AgentTrial.SandboxSettings

open Text.Template
open Text.Utf8 (encode encode_lt_encode)

/-- The slot of the image template that the registry goes into. -/
def hostSlot : String := "{registry}"

/-- The slot of the image template that the task goes into. -/
def taskSlot : String := "{task}"

theorem inBraces_hostSlot : InBraces hostSlot := ⟨"registry".toList, by decide⟩

theorem inBraces_taskSlot : InBraces taskSlot := ⟨"task".toList, by decide⟩

/-! ## Registry -/

/-- The task is in the list of an override. -/
def Lists (overrides : Dict (List String)) (registry task : String) : Prop :=
  ∃ tasks, (registry, tasks) ∈ overrides.entries ∧ task ∈ tasks

theorem lists_iff {overrides : Dict (List String)} {registry task : String} :
    Lists overrides registry task ↔
      registry ∈ (overrides.entries.filter fun entry => entry.2.contains task).map (·.1) := by
  simp [Lists]

/-- The registry that a task is to be served from. -/
inductive IsRegistryOf (settings : SandboxSettings) (task : String) : String → Prop
  /-- An override, which has the least bytes of those that list the task. -/
  | override {registry : String} (lists : Lists settings.registryOverrides registry task)
      (least : ∀ other, Lists settings.registryOverrides other task → other ≠ registry →
        encode registry < encode other) : IsRegistryOf settings task registry
  /-- The default, where no override lists the task. -/
  | default (unlisted : ∀ other, ¬Lists settings.registryOverrides other task) :
      IsRegistryOf settings task settings.registry

section Registry

variable {settings : SandboxSettings} {task registry registry' : String}

theorem IsRegistryOf.unique (h : IsRegistryOf settings task registry)
    (h' : IsRegistryOf settings task registry') : registry = registry' := by
  cases h with
  | override lists least =>
      cases h' with
      | override lists' least' =>
          by_contra different
          have less := least _ lists' (Ne.symm different)
          have more := least' _ lists different
          exact absurd (List.lt_trans less more) (List.lt_irrefl _)
      | default unlisted => exact absurd lists (unlisted _)
  | default unlisted =>
      cases h' with
      | override lists' _ => exact absurd lists' (unlisted _)
      | default _ => rfl

theorem isRegistryOf_registryFor (settings : SandboxSettings) (task : String) :
    IsRegistryOf settings task (settings.registryFor task) := by
  unfold registryFor
  cases found : settings.registryOverrides.entries.find? fun entry => entry.2.contains task with
  | some entry =>
      have listed : task ∈ entry.2 := by simpa using List.find?_some found
      refine .override ⟨entry.2, List.mem_of_find?_eq_some found, listed⟩ ?_
      rintro other ⟨tasks, mem, listed'⟩ different
      apply encode_lt_encode
      exact Dict.key_lt_of_find? found mem (by simpa using listed') different
  | none =>
      refine .default ?_
      rintro other ⟨tasks, mem, listed⟩
      have passed := List.find?_eq_none.mp found (other, tasks) mem
      exact passed (by simpa using listed)

theorem registryFor_eq_iff :
    settings.registryFor task = registry ↔ IsRegistryOf settings task registry := by
  have used := isRegistryOf_registryFor settings task
  constructor
  · rintro rfl
    exact used
  · intro h
    exact used.unique h

/-- Only the overrides that list the task matter, and of these only which they are. -/
theorem registryFor_congr {overrides : Dict (List String)}
    (same : ∀ registry, Lists overrides registry task ↔
      Lists settings.registryOverrides registry task) :
    { settings with registryOverrides := overrides }.registryFor task =
      settings.registryFor task := by
  rw [registryFor_eq_iff]
  have used := isRegistryOf_registryFor settings task
  generalize settings.registryFor task = registry at used ⊢
  cases used with
  | override lists least =>
      refine .override ((same _).mpr lists) ?_
      intro other lists' different
      exact least other ((same other).mp lists') different
  | default unlisted =>
      refine .default ?_
      intro other lists'
      exact unlisted other ((same other).mp lists')

end Registry

/-! ## Slashes -/

section Slashes

variable {settings : SandboxSettings} {task registry : String}

/-- A registry that ends otherwise than with a slash is given one. -/
theorem registrySlot_of_bare (filled : registry ≠ "")
    (bare : registry.toList.getLast? ≠ some '/') : registrySlot registry = registry ++ "/" := by
  simp [registrySlot, filled, bare]

/-- A registry that has its slash is left as it is. -/
theorem registrySlot_idem (registry : String) :
    registrySlot (registrySlot registry) = registrySlot registry := by
  by_cases ready : registry = "" ∨ registry.toList.getLast? = some '/'
  · have kept : registrySlot registry = registry := by
      rcases ready with rfl | slashed
      · rfl
      · simp [registrySlot, slashed]
    rw [kept, kept]
  · obtain ⟨filled, bare⟩ := not_or.mp ready
    rw [registrySlot_of_bare filled bare]
    simp [registrySlot]

/-- Defaults that differ in their slash alone are the same in front of a repository. -/
theorem registrySlot_registryFor_congr
    (same : registrySlot registry = registrySlot settings.registry) :
    registrySlot ({ settings with registry := registry }.registryFor task) =
      registrySlot (settings.registryFor task) := by
  have used := isRegistryOf_registryFor settings task
  generalize settings.registryFor task = registry' at used ⊢
  cases used with
  | override lists least =>
      have still : { settings with registry := registry }.registryFor task = registry' :=
        registryFor_eq_iff.mpr (.override lists least)
      rw [still]
  | default unlisted =>
      have instead : { settings with registry := registry }.registryFor task = registry :=
        registryFor_eq_iff.mpr (.default unlisted)
      rw [instead, same]

end Slashes

/-! ## Images -/

/-- The pieces of an image template around its slots for the task, with the registry in it. -/
def piecesOf (template registry : String) : List String :=
  pieces taskSlot (fill hostSlot (registrySlot registry) template)

theorem imageFor_eq (settings : SandboxSettings) (task : String) :
    settings.imageFor task =
      task.intercalate (piecesOf settings.imageTemplate (settings.registryFor task)) := rfl

/-- **Images.**
* For all settings and tasks, the registry that is used is the override with the least bytes among
  those that list the task, and the default if there is none.
* Whatever overrides are added or removed, the image of a task stays as it is as long as the same
  ones list the task.
* For every template and registry there are pieces, which are what stands around the slots for the
  task in the template with the registry in it. There is a seam for each slot that was there before
  the registry. In all settings with that template, the image of every task that the registry
  serves is these pieces joined by the task, whatever it is.
* With a slash after it, a default that does not end in one and is not empty makes the same images. -/
theorem image_references :
    (∀ (settings : SandboxSettings) (task registry : String),
      settings.registryFor task = registry ↔ IsRegistryOf settings task registry) ∧
    (∀ (settings : SandboxSettings) (overrides : Dict (List String)) (task : String),
      (∀ registry, Lists overrides registry task ↔
        Lists settings.registryOverrides registry task) →
      { settings with registryOverrides := overrides }.imageFor task = settings.imageFor task) ∧
    (∀ template registry, ∃ pieces,
      CutAt taskSlot (fill hostSlot (registrySlot registry) template) pieces ∧
      count taskSlot template.toList < pieces.length ∧
      ∀ (settings : SandboxSettings) (task : String), settings.imageTemplate = template →
        settings.registryFor task = registry → settings.imageFor task = task.intercalate pieces) ∧
    ∀ settings : SandboxSettings, settings.registry ≠ "" →
      settings.registry.toList.getLast? ≠ some '/' → ∀ task,
        { settings with registry := settings.registry ++ "/" }.imageFor task =
          settings.imageFor task := by
  refine ⟨fun settings task registry => registryFor_eq_iff, ?_, ?_, ?_⟩
  · intro settings overrides task same
    rw [imageFor_eq, imageFor_eq, registryFor_congr same]
  · intro template registry
    refine ⟨piecesOf template registry, cutAt_pieces inBraces_taskSlot _, ?_, ?_⟩
    · exact count_lt_length_pieces inBraces_hostSlot inBraces_taskSlot (by decide) _ _
    · rintro settings task rfl rfl
      exact imageFor_eq settings task
  · intro settings filled bare task
    have same : registrySlot (settings.registry ++ "/") = registrySlot settings.registry := by
      rw [← registrySlot_of_bare filled bare, registrySlot_idem]
    rw [imageFor_eq, imageFor_eq, piecesOf, registrySlot_registryFor_congr same]
    rfl

/-- A task that is called like a slot and listed by two overrides, before and after others have been
changed, and one that no override lists. -/
theorem image_references_overlapping :
    let settings : SandboxSettings :=
      { imageTemplate := "{registry}env:{task}"
        registry := "r.example"
        registryOverrides := .ofList [("b", ["t", "{registry}"]), ("a/", ["{registry}"])] }
    let overrides : Dict (List String) :=
      .ofList [("c", []), ("b", ["{registry}"]), ("a/", ["u", "{registry}"]), ("0", ["u"])]
    settings.IsRegistryOf "{registry}" "a/" ∧
      (∀ registry, Lists overrides registry "{registry}" ↔
        Lists settings.registryOverrides registry "{registry}") ∧
      { settings with registryOverrides := overrides }.imageFor "{registry}" =
        "a/env:{registry}" ∧
      (∃ pieces, 1 < pieces.length ∧
        settings.imageFor "{registry}" = "{registry}".intercalate pieces) ∧
      settings.registry ≠ "" ∧ settings.registry.toList.getLast? ≠ some '/' ∧
      { settings with registry := "r.example/" }.imageFor "v" = "r.example/env:v" := by
  intro settings overrides
  obtain ⟨registries, changes, joined, slashes⟩ := image_references
  have used : settings.registryFor "{registry}" = "a/" := by decide +kernel
  have same : ∀ registry, Lists overrides registry "{registry}" ↔
      Lists settings.registryOverrides registry "{registry}" := by
    have listing : (overrides.entries.filter fun entry => entry.2.contains "{registry}").map (·.1) =
        (settings.registryOverrides.entries.filter fun entry =>
          entry.2.contains "{registry}").map (·.1) := by
      decide +kernel
    intro registry
    rw [lists_iff, lists_iff, listing]
  have image : settings.imageFor "{registry}" = "a/env:{registry}" := by decide +kernel
  have image' : settings.imageFor "v" = "r.example/env:v" := by decide +kernel
  obtain ⟨pieces, -, seam, around⟩ := joined settings.imageTemplate "a/"
  have slots : count taskSlot settings.imageTemplate.toList = 1 := by decide
  refine ⟨(registries _ _ _).mp used, same, ?_, ⟨pieces, by omega, around settings _ rfl used⟩,
    by decide, by decide, ?_⟩
  · rw [changes settings overrides _ same, image]
  · rw [← image']
    exact slashes settings (by decide) (by decide) "v"

end AgentTrial.SandboxSettings
