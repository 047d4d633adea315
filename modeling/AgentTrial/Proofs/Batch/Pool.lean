import Mathlib.Logic.Relation
import AgentTrial.Proofs.Routine.Delay
import AgentTrial.Proofs.Routine.Suspension

/-!
# Batches step by step

A batch as it goes on: its trials are interleaved at their waits, in any order, and the whole may be
dropped at any point.

* **Jobs** — a task waits for a slot, holds one while its trial goes on, and gives it back when the
  trial is over (`Standing`, `Job.Move`). Its calls are recorded in the time of the batch.
* **Pools** — jobs that share a clock and the slots (`Pool`). One job moves, or time passes when
  all who hold a slot wait for it (`Pool.Advance`); or all jobs are dropped at once (`Pool.Step`).
* **Sandboxes** — the calls on the sandboxes of a pool are read off its jobs (`Pool.sandboxes`), and
  counted as those of a finished batch are.
-/

namespace AgentTrial

/-- A course that is dropped at an instant: the call it waits for stays without an answer. -/
def Course.cut {σ : Type} (c : Course σ) (instant : Nat) : Course σ :=
  { c with now := instant, entries := c.entries.map (Timeline.cutEntry instant) }

namespace Batch

/-! ## Jobs -/

/-- Where a task of a batch stands. -/
inductive Standing (σ : Type) where
  /-- It waits for a slot. -/
  | waiting
  /-- It holds a slot since an instant, and its trial goes on in its sandbox. -/
  | holding (start : Nat) (made : Made σ) (s : Suspended σ Empty Outcome)
  /-- Its trial began at an instant and is over. -/
  | finished (start : Nat) (timeline : Timeline)
  /-- It was dropped before it had a slot. -/
  | forgone
  /-- It was dropped in its sandbox; what its guard leaves to be done has not been done yet. -/
  | dropped (start : Nat) (made : Made σ) (released : Bool) (c : Course σ)
  /-- It was dropped in its sandbox, and its guard has nothing more to do. -/
  | gone (entries : List Entry)

namespace Standing

variable {σ : Type}

def isWaiting : Standing σ → Bool
  | waiting => true
  | _ => false

/-- Whether the task holds a slot. -/
def isHolding : Standing σ → Bool
  | holding .. => true
  | _ => false

/-- Whether a dropped guard still has to be heard of. -/
def isOwing : Standing σ → Bool
  | dropped .. => true
  | _ => false

/-- Whether the task waits in its trial beyond an instant, if it is in one. -/
def waitsBeyond (instant : Nat) : Standing σ → Bool
  | holding _ _ s => instant < s.course.now
  | _ => true

/-- The calls on the sandbox of the task, where there is one. -/
def calls? : Standing σ → Option (List Entry)
  | waiting => none
  | holding _ _ s => some s.course.entries.toList
  | finished _ timeline => if timeline.sandboxId.isSome then some timeline.entries else none
  | forgone => none
  | dropped _ _ _ c => some c.entries.toList
  | gone entries => some entries

/-- The task is dropped at an instant. -/
def drop (instant : Nat) : Standing σ → Standing σ
  | waiting => forgone
  | holding start made s => dropped start made s.released (s.course.cut instant)
  | finished start timeline => finished start timeline
  | forgone => forgone
  | dropped start made released c => dropped start made released c
  | gone entries => gone entries

end Standing

/-- A task of a batch. -/
structure Job (σ : Type) where
  dir : String
  standing : Standing σ

variable {σ : Type}

/-- A trial in its sandbox from an instant on, up to its first wait. -/
def enter (trial : Trial) (dir : String) (clock : Nat) (made : Made σ) (task : Task) :
    Suspended σ Empty Outcome :=
  (trial.inside made.backend.takesDirs (taskNameOf dir) task).advance (made.backend.since clock)
    false (made.course clock)

/-- What a job does at an instant by itself, and what becomes of the slots that are free. -/
inductive Job.Move (trial : Trial) (make : Maker σ) (clock : Nat) (dir : String) :
    Nat × Standing σ → Nat × Standing σ → Prop where
  /-- A slot is taken and given back by a trial that is over before there is a sandbox. -/
  | pass {free timeline} (begun : trial.begin make dir = .early timeline) :
      Job.Move trial make clock dir (free + 1, .waiting)
        (free + 1, .finished clock (timeline.later clock))
  /-- A slot is taken, and the trial begins in its sandbox. -/
  | enter {free made task} (begun : trial.begin make dir = .inSandbox made task) :
      Job.Move trial make clock dir (free + 1, .waiting)
        (free, .holding clock made (Batch.enter trial dir clock made task))
  /-- A wait is over. -/
  | resume {free start made s} (due : s.course.now = clock)
      (going : ∀ ending, s.rest ≠ .ended ending) :
      Job.Move trial make clock dir (free, .holding start made s)
        (free, .holding start made (s.resume (made.backend.since start)))
  /-- The trial is over, be it in a crash, and the slot is given back. -/
  | leave {free start made s ending} (due : s.course.now = clock)
      (ended : s.rest = .ended ending) :
      Job.Move trial make clock dir (free, .holding start made s)
        (free + 1, .finished start (.ofCourse (taskNameOf dir) made.backend.id ending s.course))
  /-- What a dropped guard leaves to be done is done. -/
  | clear {free start made released c} :
      Job.Move trial make clock dir (free, .dropped start made released c)
        (free, .gone ((Guard.dropping released trial.config.keepSandbox).perform
          (made.backend.since start) { c with now := clock }).2.entries.toList)

/-! ## Pools -/

/-- A batch that goes on: the time, the slots that are free, and the jobs. -/
structure Pool (σ : Type) where
  clock : Nat
  free : Nat
  jobs : List (Job σ)

namespace Pool

/-- A batch that begins. -/
def start (slots : Nat) (dirs : List String) : Pool σ :=
  ⟨0, slots, dirs.map fun dir => ⟨dir, .waiting⟩⟩

/-- The number of jobs that hold a slot. -/
def held (p : Pool σ) : Nat := p.jobs.countP (·.standing.isHolding)

/-- The number of dropped guards that have something left to be done. -/
def owed (p : Pool σ) : Nat := p.jobs.countP (·.standing.isOwing)

/-- The calls on each of the sandboxes. -/
def sandboxes (p : Pool σ) : List (List Entry) := p.jobs.filterMap (·.standing.calls?)

/-- All jobs are dropped; the slots that they hold are given back. -/
def drop (p : Pool σ) : Pool σ :=
  { p with
    free := p.free + p.held
    jobs := p.jobs.map fun job => { job with standing := job.standing.drop p.clock } }

/-- What happens in a batch that is not dropped. -/
inductive Advance (trial : Trial) (make : Maker σ) : Pool σ → Pool σ → Prop where
  /-- One job moves. -/
  | move {clock free free' dir standing standing'} (front back : List (Job σ))
      (one : Job.Move trial make clock dir (free, standing) (free', standing')) :
      Advance trial make ⟨clock, free, front ++ ⟨dir, standing⟩ :: back⟩
        ⟨clock, free', front ++ ⟨dir, standing'⟩ :: back⟩
  /-- Time passes while somebody waits and nobody's wait is over. -/
  | tick {p : Pool σ} (some : 0 < p.held + p.owed)
      (all : ∀ job ∈ p.jobs, job.standing.waitsBeyond p.clock) :
      Advance trial make p { p with clock := p.clock + 1 }

/-- What happens in a batch, drops included. -/
def Step (trial : Trial) (make : Maker σ) (p q : Pool σ) : Prop :=
  Advance trial make p q ∨ q = p.drop

/-- The pools that a batch may come to, when it may be dropped at any point. -/
def Reachable (trial : Trial) (make : Maker σ) (slots : Nat) (dirs : List String) : Pool σ → Prop :=
  Relation.ReflTransGen (Step trial make) (start slots dirs)

/-- What every step keeps holds of all pools that a batch may come to. -/
theorem Reachable.induct {trial : Trial} {make : Maker σ} {slots : Nat} {dirs : List String}
    {P : Pool σ → Prop} (begins : P (start slots dirs))
    (advance : ∀ p q, P p → Advance trial make p q → P q) (drop : ∀ p, P p → P p.drop) {p : Pool σ}
    (h : Reachable trial make slots dirs p) : P p := by
  induction h with
  | refl => exact begins
  | tail _ last ih =>
      obtain one | rfl := last
      · exact advance _ _ ih one
      · exact drop _ ih

end Pool

end Batch

end AgentTrial
