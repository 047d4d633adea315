import AgentTrial.Proofs.Batch.Pool
import AgentTrial.Proofs.Trial.Teardown

/-!
# The invariant of a batch

What holds at every point of every order in which the trials of a batch go on, drops included
(`Pool.Reachable.sound`).

* **Jobs** — each sandbox is where the flag of its guard says, or is done with (`Standing.Sound`).
* **Slots** — as long as the batch is not dropped, the slots that are free and those that are held
  add up; afterwards nobody holds or takes one (`Pool.Sound`).

Every move of a job keeps the first (`Job.Move.sound`) and the balance of slots
(`Job.Move.balance`); so every step of the pool keeps both.
-/

namespace AgentTrial.Batch

variable {σ : Type}

/-! ## Jobs -/

/-- The calls were made by an instant. -/
def MadeBy (instant : Nat) (entries : List Entry) : Prop := ∀ e ∈ entries, e.began ≤ instant

theorem MadeBy.mono {entries : List Entry} {instant later : Nat} (h : MadeBy instant entries)
    (le : instant ≤ later) : MadeBy later entries := fun e mem => Nat.le_trans (h e mem) le

/-- What holds of a job at an instant. -/
def Standing.Sound (keep : Bool) (clock : Nat) : Standing σ → Prop
  | .waiting => True
  | .holding _ _ s => s.Sound keep ∧ clock ≤ s.course.now ∧ MadeBy clock s.course.entries.toList
  | .finished _ timeline =>
    (timeline.sandboxId.isSome → TornDown keep timeline.calls) ∧ MadeBy clock timeline.entries
  | .forgone => True
  | .dropped _ _ released c => Guard.Faithful keep released c.calls ∧ MadeBy clock c.entries.toList
  | .gone entries => TornDown keep (entries.map (·.call)) ∧ MadeBy clock entries

/-- A piece of a routine makes its call by the instant at which it is done. -/
theorem madeBy_advance {ε α : Type} (backend : Backend σ) (r : Routine ε α) (released : Bool)
    {c : Course σ} (h : MadeBy c.now c.entries.toList) :
    MadeBy c.now (r.advance backend released c).course.entries.toList := by
  obtain same | ⟨last, began, -, -, more⟩ := r.advance_entries backend released c
  · rw [same]
    exact h
  · intro e mem
    rw [more, Array.mem_toList_iff, Array.mem_push] at mem
    obtain old | rfl := mem
    · exact h e (Array.mem_toList_iff.mpr old)
    · exact Nat.le_of_eq began

theorem madeBy_dropping (backend : Backend σ) (released keep : Bool) {c : Course σ}
    (h : MadeBy c.now c.entries.toList) :
    MadeBy c.now ((Guard.dropping released keep).perform backend c).2.entries.toList := by
  have added := Guard.dropping_entries backend released keep c
  split at added
  · obtain ⟨last, -, began, more⟩ := added
    intro e mem
    rw [more, Array.mem_toList_iff, Array.mem_push] at mem
    obtain old | rfl := mem
    · exact h e (Array.mem_toList_iff.mpr old)
    · exact Nat.le_of_eq began
  · rw [added]
    exact h

variable {trial : Trial} {make : Maker σ} {clock : Nat} {dir : String} {free free' : Nat}
  {standing standing' : Standing σ}

/-- **Moves.** Every move of a job keeps its sandbox where it should be. -/
theorem Job.Move.sound (h : standing.Sound trial.config.keepSandbox clock)
    (one : Job.Move trial make clock dir (free, standing) (free', standing')) :
    standing'.Sound trial.config.keepSandbox clock := by
  cases one with
  | @pass _ timeline begun =>
      obtain ⟨none, empty, -⟩ := trial.begin_early make dir begun
      refine ⟨fun boxed => ?_, ?_⟩
      · rw [Timeline.later, none] at boxed
        exact absurd boxed (by simp)
      · simp [MadeBy, Timeline.later, empty]
  | @enter _ made task begun =>
      refine ⟨?_, ?_, ?_⟩
      · exact (trial.inside_guarded _ _ task).sound _ (by simp [Course.calls, Made.course])
      · exact Routine.advance_now_le _ _ false (made.course clock)
      · exact madeBy_advance _ _ false (c := made.course clock) (by simp [MadeBy, Made.course])
  | @resume _ start made s due going =>
      -- a resumed trial makes its call at once, so at the instant of the batch
      obtain ⟨sound, -, past⟩ := h
      subst due
      exact ⟨sound.resume _, s.rest.advance_now_le _ _ _, madeBy_advance _ _ _ past⟩
  | leave due ended => exact ⟨fun _ => h.1.tornDown ended, h.2.2⟩
  | @clear _ start made released c =>
      exact ⟨Guard.Faithful.dropping _ (c := { c with now := clock }) h.1,
        madeBy_dropping _ _ _ (c := { c with now := clock }) h.2⟩

/-- Time that passes while nobody's wait is over changes nothing. -/
theorem Standing.Sound.tick {keep : Bool} (h : standing.Sound keep clock)
    (beyond : standing.waitsBeyond clock) : standing.Sound keep (clock + 1) := by
  have step := Nat.le_succ clock
  cases standing with
  | waiting => trivial
  | holding start made s => exact ⟨h.1, of_decide_eq_true beyond, h.2.2.mono step⟩
  | finished start timeline => exact ⟨h.1, h.2.mono step⟩
  | forgone => trivial
  | dropped start made released c => exact ⟨h.1, h.2.mono step⟩
  | gone entries => exact ⟨h.1, h.2.mono step⟩

theorem cut_calls (c : Course σ) (instant : Nat) : (c.cut instant).calls = c.calls := by
  simp only [Course.calls, Course.cut, Array.toList_map, List.map_map]
  refine List.map_congr_left fun e _ => ?_
  simp only [Function.comp, Timeline.cutEntry]
  split <;> rfl

theorem cut_madeBy {c : Course σ} {instant : Nat} (h : MadeBy instant c.entries.toList) :
    MadeBy instant (c.cut instant).entries.toList := by
  intro e mem
  rw [Course.cut, Array.toList_map] at mem
  obtain ⟨old, kept, rfl⟩ := List.mem_map.mp mem
  rw [Timeline.cutEntry]
  split <;> exact h old kept

/-- **Drops.** The guard of a dropped job tells truly what is left to be done. -/
theorem Standing.Sound.drop {keep : Bool} (h : standing.Sound keep clock) :
    (standing.drop clock).Sound keep clock := by
  cases standing with
  | waiting => trivial
  | holding start made s =>
      refine ⟨?_, cut_madeBy h.2.2⟩
      rw [cut_calls]
      exact h.1.faithful
  | finished start timeline => exact h
  | forgone => trivial
  | dropped start made released c => exact h
  | gone entries => exact h

/-- **Balance.** A job takes a slot when it begins and gives it back when it is over. Nobody but the
waiting comes to hold one, and no guard is dropped by a move. -/
theorem Job.Move.balance
    (one : Job.Move trial make clock dir (free, standing) (free', standing')) :
    free + standing.isHolding.toNat = free' + standing'.isHolding.toNat ∧
      standing'.isOwing.toNat ≤ standing.isOwing.toNat ∧ ¬ standing'.isWaiting ∧
      (standing'.isHolding → standing.isWaiting ∨ standing.isHolding) := by
  cases one <;> simp [Standing.isHolding, Standing.isOwing, Standing.isWaiting]

/-! ## Pools -/

namespace Pool

/-- Where the slots are: free or held, and the batch goes on; or the batch was dropped, and nobody
will take one any more. -/
inductive Balanced (slots : Nat) (p : Pool σ) : Prop where
  | going (sum : p.free + p.held = slots) (none : p.owed = 0)
  | dropped (idle : ∀ job ∈ p.jobs, ¬ job.standing.isWaiting ∧ ¬ job.standing.isHolding)
      (bound : p.owed ≤ slots)

/-- **The invariant of a batch.** -/
structure Sound (keep : Bool) (slots : Nat) (p : Pool σ) : Prop where
  balanced : p.Balanced slots
  jobs : ∀ job ∈ p.jobs, job.standing.Sound keep p.clock

theorem held_start (slots : Nat) (dirs : List String) : (start slots dirs : Pool σ).held = 0 := by
  simp [start, held, List.countP_map, Function.comp_def, Standing.isHolding]

theorem start_sound (keep : Bool) (slots : Nat) (dirs : List String) :
    (start slots dirs : Pool σ).Sound keep slots := by
  refine ⟨.going ?_ ?_, ?_⟩
  · rw [held_start]
    rfl
  · simp [start, owed, List.countP_map, Function.comp_def, Standing.isOwing]
  · intro job mem
    obtain ⟨dir, -, rfl⟩ := List.mem_map.mp mem
    trivial

/-- Counting jobs around one of them. -/
theorem countP_split (f : Job σ → Bool) (front back : List (Job σ)) (job : Job σ) :
    (front ++ job :: back).countP f = front.countP f + back.countP f + (f job).toNat := by
  rw [List.countP_append, List.countP_cons]
  cases f job with
  | true =>
      rw [if_pos rfl, Bool.toNat_true]
      omega
  | false =>
      rw [if_neg Bool.false_ne_true, Bool.toNat_false]
      omega

/-- The jobs but one stay as they are when that one moves. -/
theorem Balanced.move {slots : Nat} {front back : List (Job σ)}
    (h : Balanced slots ⟨clock, free, front ++ ⟨dir, standing⟩ :: back⟩)
    (one : Job.Move trial make clock dir (free, standing) (free', standing')) :
    Balanced slots ⟨clock, free', front ++ ⟨dir, standing'⟩ :: back⟩ := by
  obtain ⟨slot, owing, waiting, holding⟩ := one.balance
  cases h with
  | going sum none =>
      simp only [held, owed, countP_split] at sum none
      refine .going ?_ ?_
      · simp only [held, countP_split]
        omega
      · simp only [owed, countP_split]
        omega
  | dropped idle bound =>
      -- the one that moves neither waited nor held a slot
      have own := idle ⟨dir, standing⟩ (by simp)
      simp only [owed, countP_split] at bound
      refine .dropped (fun job mem => ?_) ?_
      · obtain before | rfl | after : job ∈ front ∨ job = ⟨dir, standing'⟩ ∨ job ∈ back := by
          simpa using mem
        · exact idle job (by simp [before])
        · exact ⟨waiting, fun holds => (holding holds).elim own.1 own.2⟩
        · exact idle job (by simp [after])
      · simp only [owed, countP_split]
        omega

/-- **Step.** -/
theorem Sound.advance {slots : Nat} {p q : Pool σ} (h : p.Sound trial.config.keepSandbox slots)
    (step : Advance trial make p q) : q.Sound trial.config.keepSandbox slots := by
  cases step with
  | @move clock free free' dir standing standing' front back one =>
      refine ⟨h.balanced.move one, fun job mem => ?_⟩
      obtain before | rfl | after : job ∈ front ∨ job = ⟨dir, standing'⟩ ∨ job ∈ back := by
        simpa using mem
      · exact h.jobs job (by simp [before])
      · exact one.sound (h.jobs ⟨dir, standing⟩ (by simp))
      · exact h.jobs job (by simp [after])
  | tick some all =>
      refine ⟨?_, fun job mem => (h.jobs job mem).tick (all job mem)⟩
      cases h.balanced with
      | going sum none => exact .going sum none
      | dropped idle bound => exact .dropped idle bound

theorem isOwing_drop (instant : Nat) (standing : Standing σ) :
    (standing.drop instant).isOwing = (standing.isHolding || standing.isOwing) := by
  cases standing <;> rfl

theorem owed_drop (p : Pool σ) :
    p.drop.owed = p.jobs.countP fun job => job.standing.isHolding || job.standing.isOwing := by
  rw [owed, drop, List.countP_map]
  exact List.countP_congr fun job _ => by simp [isOwing_drop]

theorem Sound.drop {keep : Bool} {slots : Nat} {p : Pool σ} (h : p.Sound keep slots) :
    p.drop.Sound keep slots := by
  refine ⟨.dropped ?_ ?_, ?_⟩
  · intro job mem
    obtain ⟨old, -, rfl⟩ := List.mem_map.mp mem
    cases old.standing <;> simp [Standing.drop, Standing.isWaiting, Standing.isHolding]
  · rw [owed_drop]
    cases h.balanced with
    | going sum none =>
        -- all guards that owe a stop afterwards are of jobs that held a slot
        have held : p.held ≤ slots := by omega
        refine Nat.le_trans (List.countP_mono_left fun job mem holds => ?_) held
        have owes := List.countP_eq_zero.mp none job mem
        exact (Bool.or_eq_true _ _ ▸ holds).resolve_right owes
    | dropped idle bound =>
        refine Nat.le_trans (List.countP_mono_left fun job mem owes => ?_) bound
        exact (Bool.or_eq_true _ _ ▸ owes).resolve_left (idle job mem).2
  · intro job mem
    obtain ⟨old, kept, rfl⟩ := List.mem_map.mp mem
    exact (h.jobs old kept).drop

/-- Whatever becomes of a batch, the invariant holds. -/
theorem Reachable.sound {slots : Nat} {dirs : List String} {p : Pool σ}
    (h : Reachable trial make slots dirs p) : p.Sound trial.config.keepSandbox slots :=
  h.induct (start_sound _ slots dirs) (fun _ _ sound => sound.advance) (fun _ sound => sound.drop)

end Pool

end AgentTrial.Batch
