import AgentTrial.Proofs.Batch.Bound
import AgentTrial.Proofs.Batch.Progress

/-!
# Trials of a batch and trials alone

What a trial does in a batch that is not dropped is what it does alone, later.

* **Simulation** — at every point a trial of the batch has before it what it would do alone from the
  instant at which it began (`Standing.Follows`); every move keeps that (`Job.Move.follows`).
* **Delay** — what it does from that instant is what it does from the first one, later, as long as
  the clock reaches the deadline of its tests (`Standing.Follows.alone`). So each trial of a batch
  that is over is the trial of its directory alone, later (`Pool.Goes.over_alone`).
-/

namespace AgentTrial

open Routine

/-- A trial in its sandbox asks for no deadline but that of the tests. -/
theorem Trial.inside_timed (trial : Trial) (takesDirs : Bool) (taskName : String) (task : Task) :
    (trial.inside takesDirs taskName task).All
      (Deed.Timed trial.executor.clock trial.config.testTimeoutSecs) := by
  rw [inside, settle_bind]
  refine All.follow ((trial.pipeline_permitted takesDirs taskName task).mono fun d h => ?_)
    fun ending => ?_
  · cases d with
    | call asked => trivial
    | deadline clock secs => exact h
    | release => trivial
  · refine (All.log _ _).bind fun _ => All.bind ⟨trivial, ?_⟩ fun _ => All.pure _
    split
    · exact All.log _ _
    · refine (All.ask trivial).attempt.bind fun answer => ?_
      cases answer with
      | ok a => exact All.pure _
      | error e => exact All.log _ _

theorem Made.course_later {σ : Type} (made : Made σ) (start : Nat) :
    (made.course 0).later start = made.course start := by
  simp [Made.course, Course.later]

theorem Timeline.ofCourse_later {σ : Type} (taskName id : String) (ending : Ending Empty Outcome)
    (c : Course σ) (start : Nat) :
    Timeline.ofCourse taskName id ending (c.later start) =
      (Timeline.ofCourse taskName id ending c).later start := by
  simp [Timeline.ofCourse, Timeline.later, Course.later]

namespace Batch

variable {σ : Type} {trial : Trial} {make : Maker σ}

/-! ## Simulation -/

/-- What a trial comes to in its sandbox, when it begins at an instant. -/
def whole (trial : Trial) (dir : String) (start : Nat) (made : Made σ) (task : Task) :
    Ending Empty Outcome × Course σ :=
  (trial.inside made.backend.takesDirs (taskNameOf dir) task).perform (made.backend.since start)
    (made.course start)

/-- What a task of an undropped batch has before it, or behind it: its trial from an instant on. -/
def Standing.Follows (trial : Trial) (make : Maker σ) (clock : Nat) (dir : String) :
    Standing σ → Prop
  | .waiting => True
  | .holding start made s => ∃ task, trial.begin make dir = .inSandbox made task ∧
      s.finish (made.backend.since start) = whole trial dir start made task
  | .finished start timeline =>
      (∃ early, trial.begin make dir = .early early ∧ timeline = early.later start) ∨
      ∃ made task, trial.begin make dir = .inSandbox made task ∧
        (whole trial dir start made task).2.now ≤ clock ∧
        timeline = .ofCourse (taskNameOf dir) made.backend.id (whole trial dir start made task).1
          (whole trial dir start made task).2
  | _ => False

/-- **Moves.** -/
theorem Job.Move.follows {clock : Nat} {dir : String} {free free' : Nat}
    {standing standing' : Standing σ} (h : standing.Follows trial make clock dir)
    (one : Job.Move trial make clock dir (free, standing) (free', standing')) :
    standing'.Follows trial make clock dir := by
  cases one with
  | pass begun => exact .inl ⟨_, begun, rfl⟩
  | enter begun => exact ⟨_, begun, finish_advance _ _ _ _⟩
  | resume due going =>
      obtain ⟨task, begun, same⟩ := h
      exact ⟨task, begun, (Suspended.finish_resume _ _).trans same⟩
  | @leave _ start made s ending due ended =>
      obtain ⟨task, begun, same⟩ := h
      rw [s.finish_ended _ ended] at same
      refine .inr ⟨made, task, begun, ?_, ?_⟩
      · rw [← same]
        exact Nat.le_of_eq due
      · rw [← same]
  | clear => exact h.elim

theorem Standing.Follows.tick {clock : Nat} {dir : String} {standing : Standing σ}
    (h : standing.Follows trial make clock dir) :
    standing.Follows trial make (clock + 1) dir := by
  cases standing with
  | finished start timeline =>
      obtain early | ⟨made, task, begun, past, eq⟩ := h
      · exact .inl early
      · exact .inr ⟨made, task, begun, Nat.le_succ_of_le past, eq⟩
  | waiting => trivial
  | holding start made s => exact h
  | forgone => exact h
  | dropped => exact h
  | gone => exact h

theorem Pool.Goes.follows {slots : Nat} {dirs : List String} {p : Pool σ}
    (h : Goes trial make slots dirs p) :
    ∀ job ∈ p.jobs, job.standing.Follows trial make p.clock job.dir :=
  h.jobs (P := fun clock dir standing => standing.Follows trial make clock dir)
    (fun _ => trivial) (fun before one => one.follows before) fun before => before.tick

/-! ## Delay -/

/-- A trial of the batch that is over is the trial of its directory alone, later. -/
theorem Standing.Follows.alone {clock : Nat} {dir : String} {start : Nat} {timeline : Timeline}
    (h : (Standing.finished start timeline : Standing σ).Follows trial make clock dir)
    (reached : trial.executor.clock.reaches clock trial.config.testTimeoutSecs) :
    timeline = (trial.run make dir).later start := by
  obtain ⟨early, begun, eq⟩ | ⟨made, task, begun, past, eq⟩ := h
  · rw [eq, trial.run_early make dir begun]
  · rw [eq, trial.run_inSandbox make dir begun, ← Timeline.ofCourse_later]
    -- the clock reaches the deadline at the end of this trial, which is over by now
    have same := perform_later made.backend start _
      (trial.inside_timed made.backend.takesDirs (taskNameOf dir) task) (made.course 0) reached
    rw [made.course_later] at same
    rw [whole, same (.inl past)]

namespace Pool

variable {slots : Nat} {dirs : List String} {p : Pool σ}

theorem Goes.map_dir (h : Goes trial make slots dirs p) : p.jobs.map (·.dir) = dirs := by
  induction h with
  | refl => simp [start, Function.comp_def]
  | tail _ last ih =>
      cases last with
      | move front back one => simpa using ih
      | tick some all => exact ih

/-- Each job of a batch that is over is the trial of its directory alone, later. -/
theorem Goes.over_alone (h : Goes trial make slots dirs p) (finished : p.isOver)
    (reached : trial.executor.clock.reaches p.clock trial.config.testTimeoutSecs) {job : Job σ}
    (mem : job ∈ p.jobs) :
    ∃ start, job.standing = .finished start ((trial.run make job.dir).later start) := by
  have follows := h.follows job mem
  have ended := List.all_eq_true.mp finished job mem
  obtain ⟨dir, standing⟩ := job
  cases standing with
  | finished start timeline => exact ⟨start, by rw [← follows.alone reached]⟩
  | waiting => cases ended
  | holding => cases ended
  | forgone => cases ended
  | dropped => cases ended
  | gone => cases ended

end Pool

end Batch

end AgentTrial
