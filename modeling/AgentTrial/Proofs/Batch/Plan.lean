import Mathlib.Data.List.Forall2
import AgentTrial.Proofs.Batch.Alone

/-!
# The plan of a batch

The plan gives each trial its start beforehand. It is one of the ways in which the batch may go step
by step: the one in which every task takes the first slot that gets free.

* **Settling** — at every instant the jobs can move on until each is over or waits beyond it
  (`Standing.Settled.next`, `settles_all`).
* **Time** — settled jobs hold a slot exactly up to the end of their trials
  (`Standing.Settled.isHolding_iff`), so time can pass up to the instant at which the next slot gets
  free (`Pool.OnPlan.wait`).
* **Plan** — the slots that the plan remembers are those of the trials that have not ended
  (`Pool.Booked`), so by induction on the tasks each begins when the plan says
  (`Pool.OnPlan.follow`), and the batch comes to where the plan ends (`plan_goes`).
-/

namespace AgentTrial.Batch

open Routine Relation

variable {σ : Type} {trial : Trial} {make : Maker σ}

/-! ## Settling -/

/-- The instant at which a task that is on or over began. -/
def Standing.start? : Standing σ → Option Nat
  | .holding start _ _ => some start
  | .finished start _ => some start
  | _ => none

/-- A trial of the batch that began at an instant, once all that is due has been done. -/
structure Standing.Settled (trial : Trial) (make : Maker σ) (clock : Nat) (dir : String)
    (start : Nat) (standing : Standing σ) : Prop where
  follows : standing.Follows trial make clock dir
  began : standing.start? = some start
  past : start ≤ clock
  beyond : standing.waitsBeyond clock

/-- A trial that goes on gets to where it waits beyond the instant, or is over. -/
theorem settles_holding {clock start : Nat} {dir : String} {made : Made σ} (past : start ≤ clock)
    (s : Suspended σ Empty Outcome)
    (follows : (Standing.holding start made s).Follows trial make clock dir)
    (on : clock ≤ s.course.now) (free : Nat) (front back : List (Job σ)) :
    ∃ free' standing, standing.Settled trial make clock dir start ∧
      ReflTransGen (Pool.Advance trial make)
        ⟨clock, free, front ++ ⟨dir, .holding start made s⟩ :: back⟩
        ⟨clock, free', front ++ ⟨dir, standing⟩ :: back⟩ := by
  by_cases beyond : clock < s.course.now
  · have settled : (Standing.holding start made s).Settled trial make clock dir start :=
      ⟨follows, rfl, past, decide_eq_true beyond⟩
    exact ⟨free, _, settled, .refl⟩
  · have due : s.course.now = clock := Nat.le_antisymm (Nat.le_of_not_lt beyond) on
    by_cases ended : ∃ ending, s.rest = .ended ending
    · obtain ⟨ending, h⟩ := ended
      have one : Job.Move trial make clock dir (free, .holding start made s) _ := .leave due h
      exact ⟨free + 1, _, ⟨one.follows follows, rfl, past, rfl⟩, .single (.move front back one)⟩
    · have going : ∀ ending, s.rest ≠ .ended ending := fun ending h => ended ⟨ending, h⟩
      have one : Job.Move trial make clock dir (free, .holding start made s) _ := .resume due going
      have less := s.size_resume_lt (made.backend.since start) going
      have later := s.rest.advance_now_le (made.backend.since start) s.released s.course
      obtain ⟨free', standing, settled, moves⟩ := settles_holding past
        (s.resume (made.backend.since start)) (one.follows follows) (Nat.le_trans on later) free
        front back
      exact ⟨free', standing, settled, .head (.move front back one) moves⟩
termination_by s.size (made.backend.since start)

/-- What was settled can be settled at the next instant. -/
theorem Standing.Settled.next {clock start : Nat} {dir : String} {standing : Standing σ}
    (h : standing.Settled trial make clock dir start) (free : Nat) (front back : List (Job σ)) :
    ∃ free' standing', standing'.Settled trial make (clock + 1) dir start ∧
      ReflTransGen (Pool.Advance trial make)
        ⟨clock + 1, free, front ++ ⟨dir, standing⟩ :: back⟩
        ⟨clock + 1, free', front ++ ⟨dir, standing'⟩ :: back⟩ := by
  have past : start ≤ clock + 1 := Nat.le_succ_of_le h.past
  cases standing with
  | holding start' made s =>
      obtain rfl : start' = start := Option.some.inj h.began
      exact settles_holding past s h.follows.tick (of_decide_eq_true h.beyond) free front back
  | finished start' timeline => exact ⟨free, _, ⟨h.follows.tick, h.began, past, rfl⟩, .refl⟩
  | waiting => cases h.began
  | forgone => cases h.began
  | dropped => cases h.began
  | gone => cases h.began

/-- Jobs whose trials began when a list says, all settled. -/
def AllSettled (trial : Trial) (make : Maker σ) (clock : Nat) :
    List (String × Nat) → List (Job σ) → Prop :=
  List.Forall₂ fun begun job =>
    job.dir = begun.1 ∧ job.standing.Settled trial make clock begun.1 begun.2

theorem settles_all {clock : Nat} {begun : List (String × Nat)} {jobs : List (Job σ)}
    (h : AllSettled trial make clock begun jobs) (free : Nat) (front back : List (Job σ)) :
    ∃ free' jobs', AllSettled trial make (clock + 1) begun jobs' ∧
      ReflTransGen (Pool.Advance trial make) ⟨clock + 1, free, front ++ (jobs ++ back)⟩
        ⟨clock + 1, free', front ++ (jobs' ++ back)⟩ := by
  induction h generalizing free front with
  | nil => exact ⟨free, [], .nil, .refl⟩
  | @cons task job begun jobs one _ ih =>
      obtain ⟨dir, standing⟩ := job
      obtain ⟨rfl, settled⟩ := one
      obtain ⟨free₁, standing', settled', first⟩ := settled.next free front (jobs ++ back)
      obtain ⟨free₂, jobs', rest, later⟩ := ih free₁ (front ++ [⟨task.1, standing'⟩])
      rw [List.append_assoc, List.append_assoc] at later
      exact ⟨free₂, ⟨task.1, standing'⟩ :: jobs', .cons ⟨rfl, settled'⟩ rest, first.trans later⟩

/-! ## Time -/

/-- The instant at which a trial ends that begins at another. -/
def endOf (trial : Trial) (make : Maker σ) (begun : String × Nat) : Nat :=
  begun.2 + (trial.run make begun.1).length

variable {last : Nat}

theorem whole_now {dir : String} {start : Nat} {made : Made σ} {task : Task}
    (begun : trial.begin make dir = .inSandbox made task)
    (reached : trial.executor.clock.reaches last trial.config.testTimeoutSecs)
    (within : endOf trial make (dir, start) ≤ last) :
    (whole trial dir start made task).2.now = endOf trial make (dir, start) := by
  rw [endOf, trial.run_inSandbox make dir begun] at within ⊢
  have same := perform_later made.backend start _
    (trial.inside_timed made.backend.takesDirs (taskNameOf dir) task) (made.course 0) reached
    (.inr (by rw [Nat.add_comm]; exact within))
  rw [made.course_later] at same
  rw [whole, same]
  exact Nat.add_comm _ _

/-- A settled trial holds a slot exactly until it ends. -/
theorem Standing.Settled.isHolding_iff {clock start : Nat} {dir : String} {standing : Standing σ}
    (h : standing.Settled trial make clock dir start)
    (reached : trial.executor.clock.reaches last trial.config.testTimeoutSecs)
    (within : endOf trial make (dir, start) ≤ last) :
    standing.isHolding ↔ clock < endOf trial make (dir, start) := by
  cases standing with
  | holding start' made s =>
      obtain rfl : start' = start := Option.some.inj h.began
      obtain ⟨task, begun, same⟩ := h.follows
      have beyond : clock < s.course.now := of_decide_eq_true h.beyond
      have later : s.course.now ≤ (s.finish (made.backend.since start')).2.now :=
        perform_now_le _ s.rest s.course
      rw [same, whole_now begun reached within] at later
      exact iff_of_true rfl (Nat.lt_of_lt_of_le beyond later)
  | finished start' timeline =>
      obtain rfl : start' = start := Option.some.inj h.began
      refine iff_of_false Bool.false_ne_true (Nat.not_lt_of_le ?_)
      obtain ⟨early, begun, -⟩ | ⟨made, task, begun, past, -⟩ := h.follows
      · rw [endOf, trial.run_early make dir begun, (trial.begin_early make dir begun).2.2]
        exact h.past
      · rw [whole_now begun reached within] at past
        exact past
  | waiting => cases h.began
  | forgone => cases h.began
  | dropped => cases h.began
  | gone => cases h.began

theorem AllSettled.held {clock : Nat} {begun : List (String × Nat)} {jobs : List (Job σ)}
    (h : AllSettled trial make clock begun jobs)
    (reached : trial.executor.clock.reaches last trial.config.testTimeoutSecs)
    (within : ∀ b ∈ begun, endOf trial make b ≤ last) :
    jobs.countP (·.standing.isHolding) = begun.countP (clock < endOf trial make ·) := by
  induction h with
  | nil => rfl
  | @cons task job begun jobs one _ ih =>
      obtain ⟨dir, standing⟩ := job
      obtain ⟨rfl, settled⟩ := one
      have here := settled.isHolding_iff reached (within task List.mem_cons_self)
      have rest := ih fun b mem => within b (List.mem_cons_of_mem _ mem)
      rw [List.countP_cons, List.countP_cons, rest]
      by_cases on : clock < endOf trial make task
      · simp only [here.mpr on, on, decide_true]
      · have off : standing.isHolding = false := by simpa using mt here.mp on
        simp only [off, on, decide_false]

theorem AllSettled.beyond {clock : Nat} {begun : List (String × Nat)} {jobs : List (Job σ)}
    (h : AllSettled trial make clock begun jobs) :
    ∀ job ∈ jobs, job.standing.waitsBeyond clock := by
  induction h with
  | nil => exact fun _ mem => absurd mem List.not_mem_nil
  | cons one _ ih =>
      intro job mem
      obtain rfl | later := List.mem_cons.mp mem
      · exact one.2.beyond
      · exact ih job later

/-- When the last trial has ended, each job is where its trial leaves it. -/
theorem AllSettled.ended {begun : List (String × Nat)} {jobs : List (Job σ)}
    (h : AllSettled trial make last begun jobs)
    (reached : trial.executor.clock.reaches last trial.config.testTimeoutSecs)
    (within : ∀ b ∈ begun, endOf trial make b ≤ last) :
    jobs = begun.map fun b => ⟨b.1, .finished b.2 ((trial.run make b.1).later b.2)⟩ := by
  induction h with
  | nil => rfl
  | @cons task job begun jobs one _ ih =>
      obtain ⟨dir, standing⟩ := job
      obtain ⟨rfl, settled⟩ := one
      have ends := within task List.mem_cons_self
      rw [ih fun b mem => within b (List.mem_cons_of_mem _ mem), List.map_cons]
      have off := mt (settled.isHolding_iff reached ends).mp (Nat.not_lt_of_le ends)
      cases standing with
      | holding => exact absurd rfl off
      | finished start timeline =>
          obtain rfl : start = task.2 := Option.some.inj settled.began
          rw [settled.follows.alone reached]
      | waiting => cases settled.began
      | forgone => cases settled.began
      | dropped => cases settled.began
      | gone => cases settled.began

/-- Tasks that wait for a slot. -/
def queue (σ : Type) (dirs : List String) : List (Job σ) := dirs.map fun dir => ⟨dir, .waiting⟩

/-- A batch whose first tasks began when a list says, and whose others wait. -/
structure Pool.OnPlan (trial : Trial) (make : Maker σ) (slots : Nat) (dirs : List String)
    (begun : List (String × Nat)) (waiting : List String) (p : Pool σ) : Prop where
  goes : Goes trial make slots dirs p
  jobs : ∃ jobs, AllSettled trial make p.clock begun jobs ∧ p.jobs = jobs ++ queue σ waiting

namespace Pool

variable {slots : Nat} {dirs waiting : List String} {begun : List (String × Nat)} {p : Pool σ}

/-- As many slots are held as trials have not ended. -/
theorem OnPlan.held (h : OnPlan trial make slots dirs begun waiting p)
    (reached : trial.executor.clock.reaches last trial.config.testTimeoutSecs)
    (within : ∀ b ∈ begun, endOf trial make b ≤ last) :
    p.held = begun.countP (p.clock < endOf trial make ·) := by
  obtain ⟨jobs, settled, eq⟩ := h.jobs
  have idle : (queue σ waiting).countP (·.standing.isHolding) = 0 := by
    refine List.countP_eq_zero.mpr ?_
    intro job mem
    obtain ⟨dir, -, rfl⟩ := List.mem_map.mp mem
    exact Bool.false_ne_true
  rw [Pool.held, eq, List.countP_append, idle, settled.held reached within]
  rfl

/-- An instant passes while a trial has not ended. -/
theorem OnPlan.tick (h : OnPlan trial make slots dirs begun waiting p)
    (reached : trial.executor.clock.reaches last trial.config.testTimeoutSecs)
    (within : ∀ b ∈ begun, endOf trial make b ≤ last)
    (on : ∃ b ∈ begun, p.clock < endOf trial make b) :
    ∃ q, OnPlan trial make slots dirs begun waiting q ∧ q.clock = p.clock + 1 := by
  obtain ⟨jobs, settled, eq⟩ := h.jobs
  have held : 0 < p.held := by
    rw [h.held reached within]
    obtain ⟨b, mem, later⟩ := on
    exact List.countP_pos_iff.mpr ⟨b, mem, decide_eq_true later⟩
  have beyond : ∀ job ∈ p.jobs, job.standing.waitsBeyond p.clock := by
    intro job mem
    rw [eq] at mem
    obtain started | waits := List.mem_append.mp mem
    · exact settled.beyond job started
    · obtain ⟨dir, -, rfl⟩ := List.mem_map.mp waits
      rfl
  have step : Advance trial make p { p with clock := p.clock + 1 } :=
    .tick (Nat.add_pos_left held _) beyond
  obtain ⟨free, jobs', settled', moves⟩ := settles_all settled p.free [] (queue σ waiting)
  refine ⟨⟨p.clock + 1, free, jobs' ++ queue σ waiting⟩, ⟨?_, jobs', settled', rfl⟩, rfl⟩
  refine (h.goes.tail step).trans ?_
  rw [eq]
  exact moves

/-- Time passes up to the end of a trial. -/
theorem OnPlan.wait {p : Pool σ} (h : OnPlan trial make slots dirs begun waiting p)
    (reached : trial.executor.clock.reaches last trial.config.testTimeoutSecs)
    (within : ∀ b ∈ begun, endOf trial make b ≤ last) {target : Nat} (later : p.clock ≤ target)
    (on : p.clock < target → ∃ b ∈ begun, target ≤ endOf trial make b) :
    ∃ q, OnPlan trial make slots dirs begun waiting q ∧ q.clock = target := by
  obtain now | before := Nat.eq_or_lt_of_le later
  · exact ⟨p, h, now⟩
  · obtain ⟨b, mem, ends⟩ := on before
    obtain ⟨q, planned, clock⟩ := h.tick reached within ⟨b, mem, Nat.lt_of_lt_of_le before ends⟩
    have closer : target - q.clock < target - p.clock := by omega
    exact planned.wait reached within (by omega) fun _ => ⟨b, mem, ends⟩
termination_by target - p.clock

/-- The first task that waits takes a slot that is free. -/
theorem OnPlan.begin {dir : String} (h : OnPlan trial make slots dirs begun (dir :: waiting) p)
    (room : p.held < slots) :
    ∃ q, OnPlan trial make slots dirs (begun ++ [(dir, p.clock)]) waiting q ∧
      q.clock = p.clock := by
  obtain ⟨jobs, settled, eq⟩ := h.jobs
  have unused : p.free ≠ 0 := by
    cases h.goes.reachable.sound.balanced with
    | going sum _ => omega
    | dropped idle _ =>
        refine absurd rfl (idle ⟨dir, .waiting⟩ ?_).1
        rw [eq]
        simp [queue]
  obtain ⟨clock, free, all⟩ := p
  obtain rfl : all = jobs ++ ⟨dir, .waiting⟩ :: queue σ waiting := eq
  obtain ⟨free, rfl⟩ : ∃ n, free = n + 1 := Nat.exists_eq_succ_of_ne_zero unused
  -- whoever begins is settled in the end, be it in a sandbox or not
  have grows : ∀ free' standing, standing.Settled trial make clock dir clock →
      Relation.ReflTransGen (Advance trial make)
        ⟨clock, free + 1, jobs ++ ⟨dir, .waiting⟩ :: queue σ waiting⟩
        ⟨clock, free', jobs ++ ⟨dir, standing⟩ :: queue σ waiting⟩ →
      ∃ q, OnPlan trial make slots dirs (begun ++ [(dir, clock)]) waiting q ∧ q.clock = clock := by
    intro free' standing last moves
    refine ⟨⟨clock, free', jobs ++ ⟨dir, standing⟩ :: queue σ waiting⟩, ⟨?_, ?_⟩, rfl⟩
    · exact h.goes.trans moves
    · refine ⟨jobs ++ [⟨dir, standing⟩], ?_, List.append_cons _ _ _⟩
      exact List.rel_append settled (.cons ⟨rfl, last⟩ .nil)
  cases begun : trial.begin make dir with
  | early timeline =>
      have one : Job.Move trial make clock dir (free + 1, .waiting) _ := .pass begun
      have follows := one.follows (show Standing.Follows trial make clock dir .waiting from trivial)
      exact grows _ _ ⟨follows, rfl, Nat.le_refl _, rfl⟩ (.single (.move _ _ one))
  | inSandbox made task =>
      have one : Job.Move trial make clock dir (free + 1, .waiting) _ := .enter begun
      have follows := one.follows (show Standing.Follows trial make clock dir .waiting from trivial)
      have on : clock ≤ (enter trial dir clock made task).course.now :=
        Routine.advance_now_le _ _ false (made.course clock)
      obtain ⟨free', standing, last, moves⟩ := settles_holding (Nat.le_refl clock) _
        follows on free jobs (queue σ waiting)
      exact grows _ _ last (.head (.move _ _ one) moves)

/-! ## Plan -/

/-- The slots in use at an instant, by the instants at which they get free, are those of the trials
that have not ended. -/
structure Booked (trial : Trial) (make : Maker σ) (slots : Nat) (begun : List (String × Nat))
    (busy : List Nat) (clock : Nat) : Prop where
  room : busy.length ≤ slots
  future : ∀ slot ∈ busy, clock ≤ slot
  counts : ∀ t, clock ≤ t → begun.countP (t < endOf trial make ·) = busy.countP (t < ·)

variable {busy : List Nat} {clock : Nat}

/-- At the instant at which the first slot gets free, the others are in use. -/
theorem Booked.free (h : Booked trial make slots begun busy clock) {first : Nat}
    (isFirst : busy.min? = some first) :
    Booked trial make slots begun (busy.erase first) first := by
  obtain ⟨mem, least⟩ := List.min?_eq_some_iff.mp isFirst
  refine ⟨?_, fun slot later => least slot (List.mem_of_mem_erase later), fun t le => ?_⟩
  · exact Nat.le_trans busy.erase_sublist.length_le h.room
  · have past : ¬ t < first := Nat.not_lt_of_le le
    rw [h.counts t (Nat.le_trans (h.future first mem) le),
      (List.perm_cons_erase mem).countP_eq (t < ·), List.countP_cons]
    simp [past]

/-- A trial that begins has its slot in use up to its end. -/
theorem Booked.begin (h : Booked trial make slots begun busy clock) (room : busy.length < slots)
    (dir : String) :
    Booked trial make slots (begun ++ [(dir, clock)])
      ((clock + (trial.run make dir).length) :: busy) clock := by
  refine ⟨room, fun slot mem => ?_, fun t le => ?_⟩
  · obtain rfl | old := List.mem_cons.mp mem
    · exact Nat.le_add_right _ _
    · exact h.future slot old
  · rw [List.countP_append, h.counts t le, List.countP_singleton, List.countP_cons]
    rfl

/-- Time passes up to the instant at which the first slot gets free. -/
theorem OnPlan.wait_free (h : OnPlan trial make slots dirs begun waiting p)
    (booked : Booked trial make slots begun busy p.clock)
    (reached : trial.executor.clock.reaches last trial.config.testTimeoutSecs)
    (within : ∀ b ∈ begun, endOf trial make b ≤ last) {first : Nat}
    (isFirst : busy.min? = some first) :
    ∃ q, OnPlan trial make slots dirs begun waiting q ∧ q.clock = first := by
  obtain ⟨mem, least⟩ := List.min?_eq_some_iff.mp isFirst
  refine h.wait reached within (booked.future first mem) fun before => ?_
  -- just before, all slots were in use, and so some trial had not ended
  have inUse : 0 < busy.countP (first - 1 < ·) :=
    List.countP_pos_iff.mpr ⟨first, mem, decide_eq_true (by omega)⟩
  rw [← booked.counts (first - 1) (by omega)] at inUse
  obtain ⟨b, old, later⟩ := List.countP_pos_iff.mp inUse
  have ends : first - 1 < endOf trial make b := of_decide_eq_true later
  exact ⟨b, old, by omega⟩

/-- The first task that waits begins when a slot is free. -/
theorem OnPlan.begin_booked {dir : String}
    (h : OnPlan trial make slots dirs begun (dir :: waiting) p)
    (booked : Booked trial make slots begun busy p.clock) (room : busy.length < slots)
    (reached : trial.executor.clock.reaches last trial.config.testTimeoutSecs)
    (within : ∀ b ∈ begun, endOf trial make b ≤ last) :
    ∃ q, OnPlan trial make slots dirs (begun ++ [(dir, p.clock)]) waiting q ∧
      q.clock = p.clock ∧ Booked trial make slots (begun ++ [(dir, p.clock)])
        ((p.clock + (trial.run make dir).length) :: busy) q.clock := by
  have held : p.held ≤ busy.length := by
    rw [h.held reached within, booked.counts p.clock (Nat.le_refl _)]
    exact List.countP_le_length
  obtain ⟨q, planned, clock⟩ := h.begin (Nat.lt_of_le_of_lt held room)
  refine ⟨q, planned, clock, ?_⟩
  rw [clock]
  exact booked.begin room dir

/-- **Plan.** The tasks that wait begin when the plan says. -/
theorem OnPlan.follow (anySlot : 0 < slots)
    (reached : trial.executor.clock.reaches last trial.config.testTimeoutSecs)
    (h : OnPlan trial make slots dirs begun waiting p)
    (booked : Booked trial make slots begun busy p.clock)
    (unused : busy.length < slots → p.clock = 0) (on : p.clock ≤ last)
    (within : ∀ b ∈ begun ++
      waiting.zip (starts slots busy (waiting.map fun dir => (trial.run make dir).length)),
      endOf trial make b ≤ last) :
    ∃ q, q.clock ≤ last ∧ OnPlan trial make slots dirs (begun ++
      waiting.zip (starts slots busy (waiting.map fun dir => (trial.run make dir).length)))
      [] q := by
  induction waiting generalizing begun busy p with
  | nil => exact ⟨p, on, by simpa using h⟩
  | cons dir rest ih =>
      have old : ∀ b ∈ begun, endOf trial make b ≤ last :=
        fun b mem => within b (List.mem_append_left _ mem)
      rw [List.map_cons, starts] at within ⊢
      split at within
      · -- a slot that was never used
        rename_i free
        rw [if_pos free, List.zip_cons_cons, List.append_cons]
        rw [List.zip_cons_cons, List.append_cons] at within
        obtain ⟨q, planned, clock, booked'⟩ := h.begin_booked booked free reached old
        rw [unused free] at planned clock booked'
        rw [Nat.zero_add] at booked'
        exact ih planned booked' (fun _ => clock) (clock ▸ Nat.zero_le _) within
      · -- the slot that gets free first
        rename_i full
        rw [if_neg full]
        obtain ⟨first, isFirst, others⟩ := exists_first anySlot full
        simp only [isFirst, Option.getD_some, List.zip_cons_cons] at within ⊢
        rw [List.append_cons] at within ⊢
        have due : first ≤ last := by
          have := within (dir, first) (by simp)
          exact Nat.le_of_add_right_le this
        obtain ⟨p', waited, rfl⟩ := h.wait_free booked reached old isFirst
        have room := booked.room
        obtain ⟨q, planned, clock, booked'⟩ :=
          waited.begin_booked (booked.free isFirst) (by omega) reached old
        refine ih planned booked' (fun free => ?_) (clock ▸ due) within
        rw [List.length_cons] at free
        omega

end Pool

/-! ## Batches -/

/-- The instant at which the last of some placed trials ends. -/
theorem finish_cases (placed : List Placed) :
    (placed = [] ∧ finish placed = 0) ∨
      (∃ q ∈ placed, q.finish = finish placed) ∧ ∀ q ∈ placed, q.finish ≤ finish placed := by
  rw [finish, List.foldl_max, Nat.zero_max]
  cases top : (placed.map (·.finish)).max? with
  | none =>
      rw [List.max?_eq_none_iff, List.map_eq_nil_iff] at top
      exact .inl ⟨top, rfl⟩
  | some last =>
      obtain ⟨mem, most⟩ := List.max?_eq_some_iff.mp top
      exact .inr ⟨List.mem_map.mp mem, fun q mem => most _ (List.mem_map_of_mem mem)⟩

/-- The plan by its tasks and their starts. -/
theorem place_zip (slots : Nat) (dirs : List String) :
    place slots (dirs.map fun dir => (dir, trial.run make dir)) =
      (dirs.zip (starts slots [] (dirs.map fun dir => (trial.run make dir).length))).map
        fun b => ⟨b.1, b.2, trial.run make b.1⟩ := by
  rw [place, List.zip_map_left, List.map_map, List.map_map]
  rfl

/-- **Batches.** The plan of a batch is one of the ways in which it may go, when the clock reaches
the deadline of the tests up to its end: at that instant every trial is over, and each began when
the plan says. -/
theorem plan_goes (trial : Trial) (make : Maker σ) {root : String} {slots : Nat}
    {placed : List Placed} (h : run trial make root slots = .value placed)
    (reached : trial.executor.clock.reaches (finish placed) trial.config.testTimeoutSecs) :
    ∃ dirs p, eligible trial.fs trial.config root slots = .value dirs ∧
      Pool.Goes trial make slots dirs p ∧ p.isOver ∧ p.clock = finish placed ∧
      p.jobs = placed.map fun q => ⟨q.dir, .finished q.start (q.timeline.later q.start)⟩ := by
  obtain ⟨dirs, accepted, rfl⟩ := eligible_of_run trial make h
  rw [place_zip] at reached ⊢
  generalize begins :
    dirs.zip (starts slots [] (dirs.map fun dir => (trial.run make dir).length)) = begun
    at reached ⊢
  have ends := finish_cases (begun.map fun b => ⟨b.1, b.2, trial.run make b.1⟩)
  generalize finish (begun.map fun b => ⟨b.1, b.2, trial.run make b.1⟩) = last at reached ends ⊢
  have within : ∀ b ∈ begun, endOf trial make b ≤ last := by
    intro b mem
    obtain ⟨none, -⟩ | ⟨-, most⟩ := ends
    · rw [List.map_eq_nil_iff.mp none] at mem
      exact absurd mem List.not_mem_nil
    · exact most _ (List.mem_map_of_mem mem)
  have first : Pool.OnPlan trial make slots dirs [] dirs (Pool.start slots dirs) :=
    ⟨.refl, [], .nil, rfl⟩
  have noneInUse : Pool.Booked trial make slots [] [] 0 := ⟨Nat.zero_le _, by simp, by simp⟩
  obtain ⟨p, on, planned⟩ := first.follow (eligible_slots accepted) reached noneInUse
    (fun _ => rfl) (Nat.zero_le _) (by rwa [List.nil_append, begins])
  rw [List.nil_append, begins] at planned
  obtain ⟨q, planned, rfl⟩ := planned.wait reached within on fun before => by
    obtain ⟨-, zero⟩ | ⟨⟨_, mem, last⟩, -⟩ := ends
    · omega
    · obtain ⟨b, old, rfl⟩ := List.mem_map.mp mem
      exact ⟨b, old, Nat.le_of_eq last.symm⟩
  obtain ⟨jobs, settled, eq⟩ := planned.jobs
  have all := settled.ended reached within
  rw [queue, List.map_nil, List.append_nil] at eq
  refine ⟨dirs, q, accepted, planned.goes, ?_, rfl, ?_⟩
  · rw [Pool.isOver, eq, all]
    simp [Standing.isOver]
  · rw [eq, all, List.map_map]
    rfl

end AgentTrial.Batch
