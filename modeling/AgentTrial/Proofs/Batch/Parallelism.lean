import AgentTrial.Proofs.Batch.Discovery
import AgentTrial.Proofs.Batch.Independence

/-!
# The number of slots

What a batch makes of the number of slots that it is given.

* **Plan** — with a slot for each task the plan lets every trial begin at once (`place_wide`).
* **Orders** — with a slot for each task nobody who waits lacks one (`Pool.Goes.free_pos`). A move
  asks for a free slot and no more, so every order in which a batch may go with some slots is open
  to it with so many (`Pool.Goes.reslot`).
* **Counts** — from one slot on a batch that has tasks comes to a report on each of them
  (`batch_by_slots`), until there are more slots than can be counted: then all of it is lost
  (`uncountable_slots_crash`).
-/

namespace AgentTrial.Batch

variable {σ : Type} {trial : Trial} {make : Maker σ}

/-! ## Plan -/

/-- As long as a slot is left for each of the trials, they begin at once. -/
theorem starts_wide {slots : Nat} {busy lengths : List Nat}
    (room : busy.length + lengths.length ≤ slots) :
    starts slots busy lengths = List.replicate lengths.length 0 := by
  induction lengths generalizing busy with
  | nil => rfl
  | cons length rest ih =>
      simp only [List.length_cons] at room
      have free : busy.length < slots := by omega
      rw [starts, if_pos free, ih (by simp only [List.length_cons]; omega)]
      rfl

/-- **Plan.** -/
theorem place_wide {slots : Nat} {trials : List (String × Timeline)}
    (room : trials.length ≤ slots) :
    place slots trials = trials.map fun t => ⟨t.1, 0, t.2⟩ := by
  rw [place, starts_wide (by simpa using room)]
  refine List.ext_getElem (by simp) fun i here there => ?_
  simp

/-! ## Orders -/

/-- A job that moves with some slots free moves with others free, unless it needs one. -/
theorem Job.Move.refree {clock free free' : Nat} {dir : String} {standing standing' : Standing σ}
    (one : Job.Move trial make clock dir (free, standing) (free', standing')) (other : Nat)
    (room : standing.isWaiting → 0 < other) :
    ∃ other', Job.Move trial make clock dir (other, standing) (other', standing') := by
  cases one with
  | pass begun =>
      obtain ⟨n, rfl⟩ := Nat.exists_eq_succ_of_ne_zero (Nat.ne_of_gt (room rfl))
      exact ⟨_, .pass begun⟩
  | enter begun =>
      obtain ⟨n, rfl⟩ := Nat.exists_eq_succ_of_ne_zero (Nat.ne_of_gt (room rfl))
      exact ⟨_, .enter begun⟩
  | resume due going => exact ⟨_, .resume due going⟩
  | leave due ended => exact ⟨_, .leave due ended⟩
  | clear => exact ⟨_, .clear⟩

namespace Pool

variable {slots wide : Nat} {dirs : List String} {p : Pool σ}

theorem Goes.length (h : Goes trial make slots dirs p) : p.jobs.length = dirs.length := by
  rw [← h.map_dir, List.length_map]

/-- Fewer jobs hold a slot than there are, when one of them waits. -/
theorem held_lt_of_waiting {job : Job σ} (mem : job ∈ p.jobs) (waits : job.standing.isWaiting) :
    p.held < p.jobs.length := by
  refine Nat.lt_of_le_of_ne List.countP_le_length ?_
  intro all
  have holds := List.countP_eq_length.mp all job mem
  obtain ⟨dir, standing⟩ := job
  cases standing with
  | waiting => cases holds
  | holding | finished | forgone | dropped | gone => cases waits

/-- With a slot for each task, one is free for whoever waits. -/
theorem Goes.free_pos (h : Goes trial make slots dirs p) (room : dirs.length ≤ slots)
    {job : Job σ} (mem : job ∈ p.jobs) (waits : job.standing.isWaiting) : 0 < p.free := by
  have held := held_lt_of_waiting mem waits
  rw [h.length] at held
  cases h.reachable.sound.balanced with
  | going sum _ => omega
  | dropped idle _ => exact absurd waits (idle job mem).1

/-- The same jobs with another number of slots: free are those that nobody holds. -/
def reslot (wide : Nat) (p : Pool σ) : Pool σ := { p with free := wide - p.held }

/-- What can happen in a batch can happen in it with a slot for each job. -/
theorem Advance.reslot {q : Pool σ} (step : Advance trial make p q)
    (room : p.jobs.length ≤ wide) : Advance trial make (p.reslot wide) (q.reslot wide) := by
  cases step with
  | @move clock free free' dir standing standing' front back one =>
      generalize before : (⟨clock, free, front ++ ⟨dir, standing⟩ :: back⟩ : Pool σ) = p at room
      have own : ⟨dir, standing⟩ ∈ p.jobs := by simp [← before]
      have most : p.held ≤ p.jobs.length := List.countP_le_length
      obtain ⟨other, again⟩ := one.refree (wide - p.held) fun waits => by
        have fewer := held_lt_of_waiting own waits
        omega
      -- what the move takes or gives back is the difference in what is held
      have balance := again.balance.1
      subst before
      obtain rfl : other = wide - held ⟨clock, free', front ++ ⟨dir, standing'⟩ :: back⟩ := by
        simp only [held, countP_split] at balance most room ⊢
        omega
      exact .move front back again
  | tick some all => exact .tick some all

/-- **Orders.** Where a batch may come to with some slots, it may come to with a slot for each
task. -/
theorem Goes.reslot (room : dirs.length ≤ wide) (h : Goes trial make slots dirs p) :
    Goes trial make wide dirs (p.reslot wide) := by
  induction h with
  | refl =>
      rw [Pool.reslot, held_start]
      exact .refl
  | tail before last ih =>
      have jobs := Goes.length before
      exact ih.tail (last.reslot (by omega))

end Pool

/-- A batch goes on as if there were no bound. -/
structure Unbounded (trial : Trial) (make : Maker σ) (slots : Nat) (dirs : List String) : Prop where
  /-- No task that waits for a slot lacks one. -/
  free : ∀ p, Pool.Goes trial make slots dirs p →
    ∀ job ∈ p.jobs, job.standing.isWaiting → 0 < p.free
  /-- Every way in which the batch may go with any number of slots is open to it. -/
  orders : ∀ other p, Pool.Goes trial make other dirs p →
    ∃ free, Pool.Goes trial make slots dirs ⟨p.clock, free, p.jobs⟩
  /-- By its plan every trial begins at once. -/
  plan : place slots (dirs.map fun dir => (dir, trial.run make dir)) =
    dirs.map fun dir => ⟨dir, 0, trial.run make dir⟩

theorem unbounded_of_length_le (trial : Trial) (make : Maker σ) {slots : Nat} {dirs : List String}
    (room : dirs.length ≤ slots) : Unbounded trial make slots dirs where
  free _ goes _ mem waits := goes.free_pos room mem waits
  orders _ _ goes := ⟨_, goes.reslot room⟩
  plan := by
    rw [place_wide (by simpa using room), List.map_map]
    rfl

/-! ## Counts -/

theorem eligible_of_discover {fs : FileSystem} {config : HarnessConfig} {root : String}
    {slots : Nat} {dirs : List String} (anySlot : 0 < slots)
    (found : discover fs config root = .ok dirs) (nonempty : dirs ≠ []) :
    eligible fs config root slots =
      if maxSlots < slots then .crash (.message slotsText) else .value dirs := by
  have notNone : slots ≠ 0 := by omega
  cases dirs with
  | nil => exact absurd rfl nonempty
  | cons dir rest => simp only [eligible, if_neg notNone, found]

/-- Every job of a batch that is over has a report. -/
theorem Pool.isSome_report? {p : Pool σ} (finished : p.isOver) {job : Job σ} (mem : job ∈ p.jobs)
    (calendar : Nat → Instant) : (job.report? calendar).isSome := by
  have ended := List.all_eq_true.mp finished job mem
  obtain ⟨dir, standing⟩ := job
  cases standing with
  | finished start timeline => rfl
  | waiting | holding | forgone | dropped | gone => cases ended

/-- The plan has one place for each task. -/
theorem place_dirs (slots : Nat) (dirs : List String) :
    (place slots (dirs.map fun dir => (dir, trial.run make dir))).map (·.dir) = dirs := by
  have trials := congrArg (List.map Prod.fst)
    (place_trials slots (dirs.map fun dir => (dir, trial.run make dir)))
  rw [List.map_map, List.map_map] at trials
  exact trials.trans (List.map_id dirs)

/-- **Counts.** Take at least one slot.

* Without a directory of tasks, where the directory cannot be listed, and without tasks in it, there
  is the error that says so.
* With tasks, a batch has a report on each, in their order, by its plan and in whatever order its
  trials go on, as long as the slots can be counted. If they cannot, it crashes.
* With a slot for each task it goes on as if there were no bound. -/
theorem batch_by_slots (trial : Trial) (make : Maker σ) (root : String) {slots : Nat}
    (anySlot : 0 < slots) :
    (∀ e, discover trial.fs trial.config root = .error e →
      ((trial.fs.isDir root = false ∧ e = .tasksDirMissing root) ∨
        (trial.fs.isDir root = true ∧ ∃ cause, trial.fs.unlisted root = some cause ∧
          e = .io cause)) ∧
      run trial make root slots = .error e) ∧
    (discover trial.fs trial.config root = .ok [] →
      run trial make root slots = .error (.noTasks root)) ∧
    ∀ dirs, discover trial.fs trial.config root = .ok dirs → dirs ≠ [] →
      (maxSlots < slots → run trial make root slots = .crash (.message slotsText)) ∧
      (slots ≤ maxSlots →
        (∃ placed, run trial make root slots = .value placed ∧ placed.map (·.dir) = dirs) ∧
        (∀ calendar reports, Reported trial make root slots calendar reports →
          reports.length = dirs.length ∧ ∀ (i : Nat) dir, dirs[i]? = some dir →
            ∃ start, reports[i]? = some (reportOn trial make calendar dir start)) ∧
        ∀ p, Pool.Goes trial make slots dirs p →
          (p.isOver ∨ ∃ q, Pool.Advance trial make p q) ∧
          Acc (fun q p => Pool.Advance trial make p q) p ∧
          p.jobs.map (·.dir) = dirs ∧
          (p.isOver → ∀ calendar, ∀ job ∈ p.jobs, (job.report? calendar).isSome)) ∧
      (dirs.length ≤ slots → Unbounded trial make slots dirs) := by
  have notNone : slots ≠ 0 := by omega
  refine ⟨?_, ?_, ?_⟩
  · intro e fails
    exact ⟨discover_eq_error_iff.mp fails, by simp only [run, eligible, if_neg notNone, fails]⟩
  · intro empty
    simp only [run, eligible, if_neg notNone, empty]
  · intro dirs found nonempty
    have accepted := eligible_of_discover anySlot found nonempty
    refine ⟨?_, ?_, unbounded_of_length_le trial make⟩
    · intro tooMany
      rw [if_pos tooMany] at accepted
      simp only [run, accepted]
    · intro counted
      rw [if_neg (by omega)] at accepted
      refine ⟨⟨_, run_place trial make accepted, place_dirs slots dirs⟩, ?_, ?_⟩
      · intro calendar reports told
        exact ⟨told.length accepted, fun i dir here => told.getElem? accepted here⟩
      · intro p goes
        exact ⟨goes.progress anySlot, Pool.advance_acc p goes.owed_eq_zero, goes.map_dir,
          fun finished calendar job mem => Pool.isSome_report? finished mem calendar⟩

/-- As many slots as can be counted are no bound for two tasks. -/
theorem batch_by_slots_pair :
    (∃ placed, run pair pairMaker "t" maxSlots = .value placed ∧
      placed.map (·.dir) = ["t/a", "t/b"]) ∧
    Unbounded pair pairMaker maxSlots ["t/a", "t/b"] := by
  obtain ⟨-, -, tasks⟩ := batch_by_slots pair pairMaker "t" (by decide : 0 < maxSlots)
  obtain ⟨-, counted, wide⟩ := tasks ["t/a", "t/b"] pair_discover (by simp)
  exact ⟨(counted (Nat.le_refl _)).1, wide (by decide)⟩

/-- One slot more than can be counted, and a batch of two tasks crashes without a result for
either. -/
theorem uncountable_slots_crash :
    discover pair.fs pair.config "t" = .ok ["t/a", "t/b"] ∧
      run pair pairMaker "t" 2305843009213693952 = .crash (.message slotsText) := by
  refine ⟨pair_discover, ?_⟩
  have accepted := eligible_of_discover (by omega : 0 < 2305843009213693952) pair_discover
    (by simp)
  rw [if_pos (by decide)] at accepted
  simp only [run, accepted]

end AgentTrial.Batch
