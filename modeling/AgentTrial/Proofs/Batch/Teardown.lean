import AgentTrial.Proofs.Batch.Bound

/-!
# Teardown in batches

Every sandbox that is made is stopped exactly once, by the last call on it, or never when it is to be
kept: in a trial on its own (`Trial.run_tornDown`), in the plan of a batch
(`Placed.cutAt_tornDown`), and in every order of a batch step by step
(`Pool.Reachable.tornDown`), whenever the trial or the batch is dropped.
-/

namespace AgentTrial.Batch

variable {σ : Type} {trial : Trial} {make : Maker σ}

/-- A trial of the plan is torn down, whenever the batch is dropped. -/
theorem Placed.cutAt_tornDown {p : Placed} (own : p.timeline = trial.run make p.dir)
    {entries : List Entry} {cut : Nat}
    (left : p.cutAt trial.config.keepSandbox cut = some entries) :
    TornDown trial.config.keepSandbox (entries.map (·.call)) := by
  rw [Placed.cutAt] at left
  split at left
  · rename_i on
    obtain rfl := Option.some.inj left
    rw [own] at on ⊢
    rw [shift_calls]
    exact Timeline.cutAt_tornDown (trial.run_tornDown make p.dir on.1) on.1 _
  · cases left

/-- What is done of the calls on the sandbox of a job. -/
theorem Standing.Sound.tornDown {keep : Bool} {clock : Nat} {standing : Standing σ}
    (h : standing.Sound keep clock) {entries : List Entry}
    (calls : standing.calls? = some entries) :
    (TornDown keep (entries.map (·.call)) ∨ .stop ∉ entries.map (·.call)) ∧
      (¬ standing.isHolding → ¬ standing.isOwing → TornDown keep (entries.map (·.call))) := by
  -- the flag of the guard tells which of the two it is
  have told : ∀ {released : Bool} {calls : List Call}, Guard.Faithful keep released calls →
      TornDown keep calls ∨ .stop ∉ calls := by
    intro released calls faithful
    cases released with
    | true => exact .inl faithful
    | false => exact .inr faithful
  cases standing with
  | waiting => cases calls
  | holding start made s =>
      obtain rfl := Option.some.inj calls
      exact ⟨told h.1.faithful, fun notHeld => absurd rfl notHeld⟩
  | finished start timeline =>
      simp only [Standing.calls?] at calls
      split at calls
      · obtain rfl := Option.some.inj calls
        exact ⟨.inl (h.1 ‹_›), fun _ _ => h.1 ‹_›⟩
      · cases calls
  | forgone => cases calls
  | dropped start made released c =>
      obtain rfl := Option.some.inj calls
      exact ⟨told h.1, fun _ notOwed => absurd rfl notOwed⟩
  | gone made =>
      obtain rfl := Option.some.inj calls
      exact ⟨.inl h.1, fun _ _ => h.1⟩

/-- A job that was dropped in its sandbox is done with as soon as its guard is heard of, whenever
that is. -/
theorem Standing.clear {standing : Standing σ} (owing : standing.isOwing) (trial : Trial)
    (make : Maker σ) (clock free : Nat) (dir : String) :
    ∃ entries, Job.Move trial make clock dir (free, standing) (free, .gone entries) := by
  cases standing with
  | dropped start made released c => exact ⟨_, .clear⟩
  | waiting => cases owing
  | holding => cases owing
  | finished => cases owing
  | forgone => cases owing
  | gone => cases owing

/-- **Exactly one teardown.** Whatever the calls on sandboxes come to, the stop included:

* a trial on its own that gets a sandbox tears it down, and so does one that is dropped at any
  instant;
* so does every trial of the plan of a batch that has begun when the batch is dropped;
* at every point of every order in which the trials of a batch go on, dropped or not, no sandbox has
  had more than its one last stop, a sandbox whose job is done with is torn down, and a job that was
  dropped is done with once its guard is heard of. -/
theorem exactly_one_teardown (trial : Trial) (make : Maker σ) :
    (∀ dir, if (trial.run make dir).sandboxId.isSome then
        TornDown trial.config.keepSandbox (trial.run make dir).calls ∧
          ∀ instant, TornDown trial.config.keepSandbox
            (((trial.run make dir).cutAt trial.config.keepSandbox instant).map (·.call))
      else (trial.run make dir).calls = []) ∧
    (∀ root slots placed, run trial make root slots = .value placed → ∀ p ∈ placed, ∀ cut entries,
      p.cutAt trial.config.keepSandbox cut = some entries →
        TornDown trial.config.keepSandbox (entries.map (·.call))) ∧
    ∀ slots dirs p, Pool.Reachable trial make slots dirs p → ∀ job ∈ p.jobs,
      (∀ entries, job.standing.calls? = some entries →
        (TornDown trial.config.keepSandbox (entries.map (·.call)) ∨
          .stop ∉ entries.map (·.call)) ∧
        (¬ job.standing.isHolding → ¬ job.standing.isOwing →
          TornDown trial.config.keepSandbox (entries.map (·.call)))) ∧
      (job.standing.isOwing → ∃ entries, Job.Move trial make p.clock job.dir
        (p.free, job.standing) (p.free, .gone entries)) := by
  refine ⟨fun dir => ?_, fun root slots placed ran p mem cut entries left => ?_,
    fun slots dirs p reachable job mem => ⟨fun entries calls => ?_, fun owing => ?_⟩⟩
  · split
    · rename_i boxed
      have down := trial.run_tornDown make dir boxed
      exact ⟨down, Timeline.cutAt_tornDown down boxed⟩
    · rename_i boxless
      exact trial.run_calls_eq_nil make dir boxless
  · obtain ⟨dirs, -, rfl⟩ := eligible_of_run trial make ran
    exact Placed.cutAt_tornDown (place_run trial make mem) left
  · exact (reachable.sound.jobs job mem).tornDown calls
  · exact Standing.clear owing trial make _ _ _

theorem exactly_one_teardown_pair :
    TornDown false (pair.run pairMaker "t/a").calls ∧ ∀ instant, TornDown false
      (((pair.run pairMaker "t/a").cutAt false instant).map (·.call)) := by
  have boxed : (pair.run pairMaker "t/a").sandboxId.isSome := by decide +kernel
  have alone := (exactly_one_teardown pair pairMaker).1 "t/a"
  rw [if_pos boxed] at alone
  exact alone

end AgentTrial.Batch
