import AgentTrial.Proofs.Batch.Invariant
import Mathlib.Algebra.Ring.Nat

/-!
# Progress of a batch

A batch that is not dropped comes to its end, in whatever order its trials go on.

* **No standstill** — as long as a trial is not over, something can happen (`Pool.Goes.progress`):
  no slot is lost, so a task that waits gets one when nobody holds any.
* **No end of steps** — every step leaves less to do: fewer tasks that wait, or less work for those
  in their trials, or less time for them to wait (`Pool.Advance.rank_lt`).
-/

namespace AgentTrial.Batch

variable {σ : Type} {trial : Trial} {make : Maker σ}

/-- Whether the trial of a task is over. -/
def Standing.isOver : Standing σ → Bool
  | .finished .. => true
  | _ => false

/-- Whether a task was dropped. -/
def Standing.isDropped : Standing σ → Bool
  | .forgone => true
  | .dropped .. => true
  | .gone _ => true
  | _ => false

/-! ## No standstill -/

namespace Pool

/-- The pools that a batch may come to when it is not dropped. -/
def Goes (trial : Trial) (make : Maker σ) (slots : Nat) (dirs : List String) : Pool σ → Prop :=
  Relation.ReflTransGen (Advance trial make) (start slots dirs)

/-- Whether all trials are over. -/
def isOver (p : Pool σ) : Bool := p.jobs.all (·.standing.isOver)

variable {slots : Nat} {dirs : List String} {p : Pool σ}

theorem Goes.reachable (h : Goes trial make slots dirs p) : Reachable trial make slots dirs p :=
  Relation.ReflTransGen.mono (fun _ _ => Or.inl) _ _ h

/-- What every move keeps in all jobs holds of all pools that an undropped batch may come to. -/
theorem Goes.jobs {P : Nat → String → Standing σ → Prop} (begins : ∀ dir, P 0 dir .waiting)
    (move : ∀ {clock dir free standing free' standing'}, P clock dir standing →
      Job.Move trial make clock dir (free, standing) (free', standing') → P clock dir standing')
    (tick : ∀ {clock dir standing}, P clock dir standing → P (clock + 1) dir standing)
    (h : Goes trial make slots dirs p) : ∀ job ∈ p.jobs, P p.clock job.dir job.standing := by
  induction h with
  | refl =>
      intro job mem
      obtain ⟨dir, -, rfl⟩ := List.mem_map.mp mem
      exact begins dir
  | tail _ last ih =>
      cases last with
      | @move clock free free' dir standing standing' front back one =>
          intro job mem
          obtain before | rfl | after : job ∈ front ∨ job = ⟨dir, standing'⟩ ∨ job ∈ back := by
            simpa using mem
          · exact ih job (by simp [before])
          · exact move (ih ⟨dir, standing⟩ (by simp)) one
          · exact ih job (by simp [after])
      | tick some all => exact fun job mem => tick (ih job mem)

theorem Goes.undropped (h : Goes trial make slots dirs p) :
    ∀ job ∈ p.jobs, ¬ job.standing.isDropped := by
  refine h.jobs (P := fun _ _ standing => ¬ standing.isDropped) ?_ ?_ ?_
  · intro dir
    simp [Standing.isDropped]
  · intro clock dir free standing free' standing' before one
    cases one <;> simp_all [Standing.isDropped]
  · exact id

/-- What one of the jobs can do can happen in the pool. -/
theorem exists_advance {job : Job σ} (mem : job ∈ p.jobs) {free : Nat} {standing : Standing σ}
    (one : Job.Move trial make p.clock job.dir (p.free, job.standing) (free, standing)) :
    ∃ q, Advance trial make p q := by
  obtain ⟨clock, start, jobs⟩ := p
  obtain ⟨front, back, rfl⟩ := List.append_of_mem mem
  exact ⟨_, .move front back one⟩

/-- A task that waits can begin when a slot is free. -/
theorem begins_of_free {job : Job σ} (mem : job ∈ p.jobs) (waits : job.standing.isWaiting)
    (room : 0 < p.free) : ∃ q, Advance trial make p q := by
  obtain ⟨clock, free, jobs⟩ := p
  obtain ⟨free, rfl⟩ : ∃ n, free = n + 1 := Nat.exists_eq_succ_of_ne_zero (Nat.ne_of_gt room)
  obtain ⟨dir, standing⟩ := job
  cases standing with
  | waiting =>
      cases begun : trial.begin make dir with
      | early timeline =>
          exact exists_advance mem (.pass begun)
      | inSandbox made task =>
          exact exists_advance mem (.enter begun)
  | holding => cases waits
  | finished => cases waits
  | forgone => cases waits
  | dropped => cases waits
  | gone => cases waits

/-- A trial whose wait is over can go on or end. -/
theorem goes_on_of_due {keep : Bool} {job : Job σ} (mem : job ∈ p.jobs)
    (sound : job.standing.Sound keep p.clock) (due : ¬ job.standing.waitsBeyond p.clock) :
    ∃ q, Advance trial make p q := by
  obtain ⟨dir, standing⟩ := job
  cases standing with
  | holding start made s =>
      have now : s.course.now = p.clock := by
        have notLater : ¬ p.clock < s.course.now := by simpa [Standing.waitsBeyond] using due
        exact Nat.le_antisymm (Nat.le_of_not_lt notLater) sound.2.1
      by_cases ended : ∃ ending, s.rest = .ended ending
      · obtain ⟨ending, h⟩ := ended
        exact exists_advance mem (.leave now h)
      · exact exists_advance mem (.resume now fun ending h => ended ⟨ending, h⟩)
  | waiting => exact absurd rfl due
  | finished => exact absurd rfl due
  | forgone => exact absurd rfl due
  | dropped => exact absurd rfl due
  | gone => exact absurd rfl due

theorem Goes.owed_eq_zero (h : Goes trial make slots dirs p) : p.owed = 0 := by
  refine List.countP_eq_zero.mpr fun job mem owes => h.undropped job mem ?_
  cases standing : job.standing <;> simp_all [Standing.isOwing, Standing.isDropped]

/-- **No standstill.** -/
theorem Goes.progress (anySlot : 0 < slots) (h : Goes trial make slots dirs p) :
    p.isOver ∨ ∃ q, Advance trial make p q := by
  have sound := h.reachable.sound
  by_cases held : ∃ job ∈ p.jobs, job.standing.isHolding
  · -- somebody is in a trial: time passes, or a wait is over
    refine .inr ?_
    by_cases beyond : ∀ job ∈ p.jobs, job.standing.waitsBeyond p.clock
    · exact ⟨_, .tick (Nat.add_pos_left (List.countP_pos_iff.mpr held) _) beyond⟩
    · simp only [Classical.not_forall] at beyond
      obtain ⟨job, mem, due⟩ := beyond
      exact goes_on_of_due mem (sound.jobs job mem) due
  · -- nobody is, so all slots are free
    have none : p.held = 0 := by
      refine List.countP_eq_zero.mpr ?_
      intro job mem holds
      exact held ⟨job, mem, holds⟩
    by_cases waiting : ∃ job ∈ p.jobs, job.standing.isWaiting
    · obtain ⟨job, mem, waits⟩ := waiting
      refine .inr (begins_of_free mem waits ?_)
      cases sound.balanced with
      | going sum _ => omega
      | dropped idle _ => exact absurd waits (idle job mem).1
    · refine .inl (List.all_eq_true.mpr ?_)
      intro job mem
      have notDropped := h.undropped job mem
      have notHeld : ¬ job.standing.isHolding := fun holds => held ⟨job, mem, holds⟩
      have notWaiting : ¬ job.standing.isWaiting := fun waits => waiting ⟨job, mem, waits⟩
      cases standing : job.standing <;>
        simp_all [Standing.isDropped, Standing.isHolding, Standing.isWaiting, Standing.isOver]

end Pool

/-! ## No end of steps -/

/-- What a task has left to do in its trial, and to leave it. -/
def Standing.work : Standing σ → Nat
  | .holding start made s => s.size (made.backend.since start) + 1
  | _ => 0

/-- How long a task still waits in its trial. -/
def Standing.wait (clock : Nat) : Standing σ → Nat
  | .holding _ _ s => s.course.now - clock
  | _ => 0

namespace Pool

variable {p q : Pool σ}

/-- The number of tasks that wait for a slot. -/
def waiting (p : Pool σ) : Nat := p.jobs.countP (·.standing.isWaiting)

/-- What is left to do in all trials. -/
def work (p : Pool σ) : Nat := (p.jobs.map (·.standing.work)).sum

/-- How long all trials still wait. -/
def wait (p : Pool σ) : Nat := (p.jobs.map (·.standing.wait p.clock)).sum

/-- Adding up over jobs around one of them. -/
theorem sum_split (f : Job σ → Nat) (front back : List (Job σ)) (job : Job σ) :
    ((front ++ job :: back).map f).sum = (front.map f).sum + (back.map f).sum + f job := by
  simp only [List.map_append, List.map_cons, List.sum_append, List.sum_cons]
  omega

/-- A tick takes one instant off the wait of everybody who holds a slot. -/
theorem sum_wait_tick {clock : Nat} {jobs : List (Job σ)}
    (all : ∀ job ∈ jobs, job.standing.waitsBeyond clock) :
    (jobs.map (·.standing.wait (clock + 1))).sum + jobs.countP (·.standing.isHolding) =
      (jobs.map (·.standing.wait clock)).sum := by
  induction jobs with
  | nil => rfl
  | cons job rest ih =>
      have later := ih fun other mem => all other (List.mem_cons_of_mem _ mem)
      have beyond := all job List.mem_cons_self
      have one : job.standing.wait (clock + 1) + job.standing.isHolding.toNat =
          job.standing.wait clock := by
        obtain ⟨dir, standing⟩ := job
        cases standing with
        | holding start made s =>
            have : clock < s.course.now := of_decide_eq_true beyond
            simp only [Standing.wait, Standing.isHolding, Bool.toNat_true]
            omega
        | waiting => rfl
        | finished => rfl
        | forgone => rfl
        | dropped => rfl
        | gone => rfl
      rw [show job :: rest = [] ++ job :: rest from rfl, countP_split, sum_split, sum_split]
      simp only [List.map_nil, List.sum_nil, List.countP_nil]
      omega

/-- Nobody is dropped by what happens in a batch that is not dropped. -/
theorem Advance.owed_eq_zero (step : Advance trial make p q) (h : p.owed = 0) : q.owed = 0 := by
  cases step with
  | move front back one =>
      have balance := one.balance
      simp only [owed, countP_split] at h ⊢
      omega
  | tick some all => exact h

/-- **Rank.** Fewer tasks wait; or as many do, and less is left to do; or as much is, and the wait
is shorter. -/
theorem Advance.rank_lt (step : Advance trial make p q) (h : p.owed = 0) :
    q.waiting < p.waiting ∨ q.waiting = p.waiting ∧
      (q.work < p.work ∨ q.work = p.work ∧ q.wait < p.wait) := by
  cases step with
  | move front back one =>
      cases one with
      -- who begins waits no more, however much there is to do in the trial
      | pass begun => exact .inl (by simp [waiting, Standing.isWaiting])
      | enter begun => exact .inl (by simp [waiting, Standing.isWaiting])
      | @resume _ start made s due going =>
          have less := s.size_resume_lt (made.backend.since start) going
          refine .inr ⟨by simp [waiting, Standing.isWaiting], .inl ?_⟩
          simp only [work, sum_split, Standing.work]
          omega
      | leave due ended =>
          refine .inr ⟨by simp [waiting, Standing.isWaiting], .inl ?_⟩
          simp only [work, sum_split, Standing.work]
          omega
      | clear => simp [owed, Standing.isOwing] at h
  | tick some all =>
      -- somebody holds a slot, as no dropped guard has anything to do
      have shorter := sum_wait_tick all
      refine .inr ⟨rfl, .inr ⟨rfl, ?_⟩⟩
      simp only [wait, held, h] at some shorter ⊢
      omega

/-- **No end of steps.** However a batch goes on that is not dropped, it comes to an end. -/
theorem advance_acc (p : Pool σ) (h : p.owed = 0) :
    Acc (fun q p => Advance trial make p q) p :=
  Acc.intro p fun q step => advance_acc q (step.owed_eq_zero h)
termination_by (p.waiting, p.work, p.wait)
decreasing_by
  obtain less | ⟨same, less | ⟨alike, less⟩⟩ := step.rank_lt h
  · exact Prod.Lex.left _ _ less
  · rw [same]
    exact Prod.Lex.right _ (Prod.Lex.left _ _ less)
  · rw [same, alike]
    exact Prod.Lex.right _ (Prod.Lex.right _ less)

/-- So from every pool it gets to one in which all trials are over. -/
theorem Goes.gets_over {slots : Nat} {dirs : List String} (anySlot : 0 < slots)
    (h : Goes trial make slots dirs p) : ∃ q, Goes trial make slots dirs q ∧ q.isOver := by
  have acc : Acc (fun q p => Advance trial make p q) p := advance_acc p h.owed_eq_zero
  induction acc with
  | intro p _ ih =>
      obtain finished | ⟨q, step⟩ := h.progress anySlot
      · exact ⟨p, h, finished⟩
      · exact ih q step (h.tail step)

end Pool

end AgentTrial.Batch
