import AgentTrial.Proofs.Batch.Invariant
import AgentTrial.Proofs.Batch.Slots
import AgentTrial.Sandbox.Script

/-!
# The bound on sandboxes

At no instant of a batch are more sandboxes up than there are slots: a sandbox that is up belongs to
a job that holds a slot, or to one whose dropped guard has not been heard of yet, and the invariant
bounds either (`Pool.Sound.upCount_le`). The plan of the batch, which places finished trials, keeps
the same bound (`concurrency_bound`).
-/

namespace AgentTrial.Batch

variable {σ : Type}

/-- A sandbox that is up at an instant is in use then, or was dropped and owes its stop. -/
theorem Standing.Sound.isOpen {clock : Nat} {standing : Standing σ}
    (h : standing.Sound false clock) {entries : List Entry} (calls : standing.calls? = some entries)
    (up : isUpAt clock entries) : standing.isHolding || standing.isOwing := by
  cases standing with
  | waiting => cases calls
  | holding start made s => rfl
  | finished start timeline =>
      -- torn down by now, and so not up
      simp only [Standing.calls?] at calls
      split at calls
      · obtain rfl := Option.some.inj calls
        exact absurd (lt_of_isUpAt up (h.1 ‹_›) h.2) (Nat.lt_irrefl clock)
      · cases calls
  | forgone => cases calls
  | dropped start made released c => rfl
  | gone made =>
      obtain rfl := Option.some.inj calls
      exact absurd (lt_of_isUpAt up h.1 h.2) (Nat.lt_irrefl clock)

namespace Pool

theorem Sound.upCount_le {slots : Nat} {p : Pool σ} (h : p.Sound false slots) :
    upCount p.sandboxes p.clock ≤ slots := by
  -- as many are up as jobs are open
  have opened : upCount p.sandboxes p.clock ≤
      p.jobs.countP fun job => job.standing.isHolding || job.standing.isOwing := by
    rw [upCount, ← List.countP_eq_length_filter, sandboxes, List.countP_filterMap]
    refine List.countP_mono_left fun job mem up => ?_
    cases calls : job.standing.calls? with
    | none => simp [calls] at up
    | some entries =>
        rw [calls] at up
        exact (h.jobs job mem).isOpen calls up
  -- and the open jobs are those of a dropped batch
  rw [← owed_drop] at opened
  cases h.drop.balanced with
  | going sum none => omega
  | dropped idle bound => exact Nat.le_trans opened bound

end Pool

theorem peak_le {sandboxes : List (List Entry)} {slots : Nat}
    (h : ∀ instant, upCount sandboxes instant ≤ slots) : peak sandboxes ≤ slots := by
  have fold : ∀ (counts : List Nat) (top : Nat), top ≤ slots → (∀ n ∈ counts, n ≤ slots) →
      counts.foldl max top ≤ slots := by
    intro counts
    induction counts with
    | nil => exact fun top le _ => le
    | cons n rest ih =>
        intro top le all
        exact ih _ (Nat.max_le.mpr ⟨le, all n (by simp)⟩) fun m mem => all m (by simp [mem])
  refine fold _ 0 (Nat.zero_le _) fun n mem => ?_
  obtain ⟨times, -, rfl⟩ := List.mem_map.mp mem
  exact h times.1

theorem eligible_slots {fs : FileSystem} {config : HarnessConfig} {root : String} {slots : Nat}
    {dirs : List String} (h : eligible fs config root slots = .value dirs) : 0 < slots := by
  rw [eligible] at h
  split at h
  · cases h
  · omega

variable (trial : Trial) (make : Maker σ)

theorem run_place {root : String} {slots : Nat} {dirs : List String}
    (h : eligible trial.fs trial.config root slots = .value dirs) :
    run trial make root slots =
      .value (place slots (dirs.map fun dir => (dir, trial.run make dir))) := by
  unfold run
  simp only [h]

theorem eligible_of_run {root : String} {slots : Nat} {placed : List Placed}
    (h : run trial make root slots = .value placed) :
    ∃ dirs, eligible trial.fs trial.config root slots = .value dirs ∧
      placed = place slots (dirs.map fun dir => (dir, trial.run make dir)) := by
  cases accepted : eligible trial.fs trial.config root slots with
  | value dirs =>
      rw [run_place trial make accepted] at h
      exact ⟨dirs, rfl, (Ending.value.inj h).symm⟩
  | error e =>
      unfold run at h
      simp only [accepted] at h
      cases h
  | crash c =>
      unfold run at h
      simp only [accepted] at h
      cases h

/-- **Bound.** In a batch with any number of slots that is accepted, of any tasks with any
sandboxes, that are to be stopped in the end:

* at every point of every order in which the trials go on, dropped or not, no more sandboxes are up
  than there are slots;
* nor are there at any instant of the plan of the batch, whenever it is dropped. -/
theorem concurrency_bound (stops : trial.config.keepSandbox = false) {root : String} {slots : Nat}
    {dirs : List String} (accepted : eligible trial.fs trial.config root slots = .value dirs) :
    (∀ p, Pool.Reachable trial make slots dirs p → upCount p.sandboxes p.clock ≤ slots) ∧
      ∃ placed, run trial make root slots = .value placed ∧ ∀ cut,
        (∀ instant, upCount (placed.filterMap (·.cutAt false cut)) instant ≤ slots) ∧
          peak (placed.filterMap (·.cutAt false cut)) ≤ slots := by
  refine ⟨fun p reachable => ?_, _, run_place trial make accepted, fun cut => ?_⟩
  · have sound := reachable.sound
    rw [stops] at sound
    exact sound.upCount_le
  · have bound := upCount_place_le trial make stops (eligible_slots accepted) dirs cut
    exact ⟨bound, peak_le bound⟩

/-! ## Two tasks -/

/-- A directory of one task. -/
def taskNode : FileSystem.Node :=
  .dir (.cons "task.yaml" (.ofText "instruction: mend it") .nil)

/-- Trials of two tasks. -/
def pair : Trial where
  config := {}
  agent := {}
  executor := .hourly
  fs := {
    root := .dir (.cons "t" (.dir (.cons "a" taskNode (.cons "b" taskNode .nil))) .nil)
    workingDir := [] }

/-- Sandboxes in which every call succeeds, but a start and a session take some time. -/
def pairMaker : Maker (List Script.Rule) := fun name =>
  .value ⟨Script.backend name true,
    [{ on := .start, delay := 100 }, { on := .session, delay := 200 }]⟩

theorem pair_discover : discover pair.fs pair.config "t" = .ok ["t/a", "t/b"] := by
  have tree : pair.fs.directory? "t" = some (.cons "a" taskNode (.cons "b" taskNode .nil)) := rfl
  have a : pair.fs.isFile (Path.join (Path.join "t" "a") pair.config.taskFile) = true := by
    decide +kernel
  have b : pair.fs.isFile (Path.join (Path.join "t" "b") pair.config.taskFile) = true := by
    decide +kernel
  have listed : pair.fs.unlisted "t" = none := rfl
  unfold discover
  simp [tree, listed, FileSystem.Entries.toList, taskNode, FileSystem.Node.isDir, a, b,
    List.mergeSort]
  decide

theorem pair_eligible {slots : Nat} (some : 0 < slots) (few : slots ≤ maxSlots) :
    eligible pair.fs pair.config "t" slots = .value ["t/a", "t/b"] := by
  unfold eligible
  simp only [pair_discover]
  rw [if_neg (Nat.ne_of_gt some), if_neg (Nat.not_lt_of_le few)]

/-- Whether a sandbox is up is told by when it is. -/
theorem upCount_eq_countP (sandboxes : List (List Entry)) (instant : Nat) :
    upCount sandboxes instant = (sandboxes.map upTime?).countP fun time =>
      match time with
      | none => false
      | some (up, down) => up ≤ instant && match down with
        | some down => instant < down
        | none => true := by
  rw [upCount, ← List.countP_eq_length_filter, List.countP_map]
  rfl

/-- The bound on the sandboxes of the two tasks, and that there are as many up for some time. -/
def PairBounded (slots : Nat) : Prop :=
  (∀ p, Pool.Reachable pair pairMaker slots ["t/a", "t/b"] p →
    upCount p.sandboxes p.clock ≤ slots) ∧
    ∃ placed, run pair pairMaker "t" slots = .value placed ∧
      (∀ cut, (∀ instant, upCount (placed.filterMap (·.cutAt false cut)) instant ≤ slots) ∧
        peak (placed.filterMap (·.cutAt false cut)) ≤ slots) ∧
      ∀ instant, 100 ≤ instant → instant < 500 →
        upCount (placed.filterMap (·.cutAt false 1000)) instant = slots

/-- The bound holds with one slot and with two, and is reached with both. -/
theorem concurrency_bound_pair : PairBounded 1 ∧ PairBounded 2 := by
  have bounded {slots : Nat} (some : 0 < slots) (few : slots ≤ maxSlots)
      (reached : ∀ instant, 100 ≤ instant → instant < 500 →
        upCount ((place slots (["t/a", "t/b"].map fun dir =>
          (dir, pair.run pairMaker dir))).filterMap (·.cutAt false 1000)) instant = slots) :
      PairBounded slots := by
    obtain ⟨orders, placed, planned, bound⟩ :=
      concurrency_bound pair pairMaker rfl (pair_eligible some few)
    refine ⟨orders, placed, planned, bound, ?_⟩
    obtain rfl := Ending.value.inj
      ((run_place pair pairMaker (pair_eligible some few)).symm.trans planned)
    exact reached
  refine ⟨bounded (by decide) (by decide) fun instant up down => ?_,
    bounded (by decide) (by decide) fun instant up down => ?_⟩
  · have times : ((place 1 (["t/a", "t/b"].map fun dir => (dir, pair.run pairMaker dir))).filterMap
        (·.cutAt false 1000)).map upTime? = [some (100, some 500), some (600, some 1000)] := by
      decide +kernel
    rw [upCount_eq_countP, times]
    simp [up, down]
    omega
  · have times : ((place 2 (["t/a", "t/b"].map fun dir => (dir, pair.run pairMaker dir))).filterMap
        (·.cutAt false 1000)).map upTime? = [some (100, some 500), some (100, some 500)] := by
      decide +kernel
    rw [upCount_eq_countP, times]
    simp [up, down]

end AgentTrial.Batch
