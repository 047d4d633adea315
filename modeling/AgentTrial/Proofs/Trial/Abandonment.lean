import AgentTrial.Proofs.Batch.Pool
import AgentTrial.Proofs.Routine.Waits
import AgentTrial.Proofs.Trial.Attribution
import AgentTrial.Sandbox.Script

/-!
# Abandoned stops

A trial that is dropped leaves its sandbox to the guard, and the guard makes a stop of its own that
nobody drops. It owes one until the trial releases it, and the trial releases it before it waits for
its own stop.

* **Two parties** — at an instant of a wait either the guard is unreleased and the stop is still to
  come, or it is released and the stop has begun (`Guarded.stop_cases`).
* **Record** — so what is left of a dropped routine can be told from the flag of its guard
  (`Guarded.cutAt_eq`).
* **Drops** — a trial that is dropped before its stop leaves one to its guard; one that is dropped
  while it waits for its stop takes the stop with it, and the guard makes none
  (`stop_abandoned_iff`).
-/

namespace AgentTrial

variable {σ ε α : Type}

/-- A routine that is dropped at an instant of a wait has its sandbox stopped to the end: by a stop
that was over by then, or by one that the guard makes in the state in which the sandbox is left. -/
def Suspended.StopsThrough (backend : Backend σ) (keep : Bool) (s : Suspended σ ε α)
    (instant : Nat) (left : σ) : Prop :=
  (∃ e ∈ s.course.entries, e.call = .stop ∧ e.ended ≤ instant) ∨
    .stop ∈ ((Guard.dropping s.released keep).perform backend ⟨instant, left, #[], #[]⟩).2.calls

theorem Guard.stop_mem_dropping (backend : Backend σ) (released keep : Bool) (c : Course σ) :
    .stop ∈ ((dropping released keep).perform backend c).2.calls ↔
      owesStop released keep ∨ .stop ∈ c.calls := by
  have added := dropping_entries backend released keep c
  split at added
  · rename_i owed
    obtain ⟨e, stop, -, more⟩ := added
    simp [Course.calls, more, stop, owed]
  · rename_i free
    simp [Course.calls, added, free]

/-- The flag of a guard tells whether its sandbox is still to be stopped. -/
theorem Guard.Faithful.owesStop_iff {keep released : Bool} {calls : List Call}
    (h : Faithful keep released calls) : owesStop released keep ↔ ¬ (keep ∨ .stop ∈ calls) := by
  cases released with
  | false =>
      have clean : .stop ∉ calls := h
      simp [owesStop, clean]
  | true =>
      cases keep with
      | true => simp [owesStop]
      | false =>
          obtain ⟨before, rfl, -⟩ : TornDown false calls := h
          simp [owesStop]

/-- Among the calls on a sandbox there is one stop. -/
structure IsOnlyStop (stop : Entry) (entries : List Entry) : Prop where
  mem : stop ∈ entries
  isStop : stop.call = .stop
  only : ∀ e ∈ entries, e.call = .stop → e = stop

/-- A sandbox that is done with was stopped once. -/
theorem TornDown.exists_stop {entries : List Entry}
    (h : TornDown false (entries.map (·.call))) : ∃ stop, IsOnlyStop stop entries := by
  obtain ⟨before, all, clean⟩ := h
  obtain ⟨front, back, rfl, earlier, last⟩ := List.map_eq_append_iff.mp all
  obtain ⟨stop, rfl, same⟩ := List.map_eq_singleton_iff.mp last
  refine ⟨stop, by simp, same, fun e mem isStop => ?_⟩
  obtain early | here := List.mem_append.mp mem
  · -- no call before the last is a stop
    have found : e.call ∈ before := earlier ▸ List.mem_map_of_mem early
    exact absurd (isStop ▸ found) clean
  · exact List.mem_singleton.mp here

namespace Routine

variable {backend : Backend σ} {r : Routine ε α} {c : Course σ} {keep : Bool}

/-- At every wait the flag of the guard tells of the calls on its sandbox. -/
theorem Guarded.waits (h : r.Guarded keep) (clean : .stop ∉ c.calls) {since : Nat}
    {s : Suspended σ ε α} (waits : r.Waits backend c since s) : s.Sound keep := by
  induction waits with
  | first => exact h.sound backend clean
  | next _ ih => exact ih.resume backend

section Stop

variable {instant : Nat} {s : Suspended σ ε α} {stop : Entry} (h : r.Guarded false)
  (clean : .stop ∉ c.calls) (past : c.IsPast) (stands : r.StandsAt backend c instant s)
  (one : IsOnlyStop stop (r.perform backend c).2.entries.toList)

include h clean past stands one

/-- The guard is released by the instant at which the stop begins, and no earlier. -/
theorem Guarded.stop_cases :
    (s.released = false ∧ instant < stop.began) ∨
      (s.released = true ∧ stop.began ≤ instant ∧ IsOnlyStop stop s.course.entries.toList) := by
  obtain ⟨later, all, before, after⟩ := stands.entries_eq past
  obtain ⟨since, waits, -⟩ := stands
  have faithful := (h.waits clean waits).faithful
  obtain ⟨mem, isStop, only⟩ := one
  rw [all] at mem only
  cases released : s.released with
  | false =>
      -- no stop has been made, so the stop comes later
      rw [released] at faithful
      have unmade : stop ∉ s.course.entries.toList := fun made =>
        faithful (isStop ▸ List.mem_map_of_mem made)
      exact .inl ⟨rfl, after stop ((List.mem_append.mp mem).resolve_left unmade)⟩
  | true =>
      -- a stop has been made, and there is only one
      rw [released] at faithful
      have down : TornDown false (s.course.entries.toList.map (·.call)) := faithful
      obtain ⟨made, alone⟩ := down.exists_stop
      obtain rfl := only made (List.mem_append_left _ alone.mem) alone.isStop
      exact .inr ⟨rfl, before made (Array.mem_toList_iff.mp alone.mem), alone⟩

/-- The stop is carried through unless the routine is dropped while it waits for it. -/
theorem Guarded.stopsThrough_iff (left : σ) :
    s.StopsThrough backend false instant left ↔
      ¬ (stop.began ≤ instant ∧ instant < stop.ended) := by
  rw [Suspended.StopsThrough, Guard.stop_mem_dropping]
  obtain ⟨unreleased, due⟩ | ⟨released, begun, made⟩ := h.stop_cases clean past stands one
  · -- the guard makes a stop
    rw [unreleased]
    exact iff_of_true (.inr (.inl rfl)) fun during => Nat.not_lt.mpr during.1 due
  · -- the guard makes none
    rw [released]
    constructor
    · rintro (⟨e, found, same, ended⟩ | owed | none) ⟨-, during⟩
      · obtain rfl := made.only e (Array.mem_toList_iff.mpr found) same
        exact Nat.not_lt.mpr ended during
      · cases owed
      · cases none
    · intro free
      refine .inl ⟨stop, Array.mem_toList_iff.mp made.mem, made.isStop, Nat.not_lt.mp ?_⟩
      exact fun during => free ⟨begun, during⟩

/-- The guard owes a stop until the stop of the routine begins. -/
theorem Guarded.owesStop_iff : Guard.owesStop s.released false ↔ instant < stop.began := by
  obtain ⟨unreleased, due⟩ | ⟨released, begun, -⟩ := h.stop_cases clean past stands one
  · rw [unreleased]
    exact iff_of_true rfl due
  · rw [released]
    exact iff_of_false nofun (Nat.not_lt.mpr begun)

end Stop

/-- What is left of a routine that is dropped is what it has done by the wait at which it stands,
and the stop of the guard if its flag leaves one to be made. -/
theorem Guarded.cutAt_eq (h : r.Guarded keep) (clean : .stop ∉ c.calls) (past : c.IsPast)
    {instant : Nat} {s : Suspended σ ε α} (stands : r.StandsAt backend c instant s)
    (taskName id : String) (ending : Ending Empty Outcome) :
    (Timeline.ofCourse taskName id ending (r.perform backend c).2).cutAt keep instant =
      (s.course.cut instant).entries.toList ++
        if Guard.owesStop s.released keep then [⟨.stop, instant, instant, true⟩] else [] := by
  have going := stands.lt_now
  have upTo := stands.upTo past
  -- the timeline looks for a stop among what was made by then, the guard at its flag
  have stopped := Timeline.any_isStop_upTo (r.perform backend c).2.entries.toList instant
  rw [upTo] at stopped
  have owes : Guard.owesStop s.released keep ↔
      ¬ (keep ∨ .stop ∈ s.course.entries.toList.map (·.call)) := by
    obtain ⟨since, waits, -⟩ := stands
    exact (h.waits clean waits).faithful.owesStop_iff
  simp only [Timeline.cutAt, Timeline.ofCourse, Nat.not_le.mpr going, if_false, upTo, stopped,
    decide_eq_true_iff, Option.isNone_some, Bool.false_eq_true, false_or, Course.cut,
    Array.toList_map]
  split
  · rename_i settled
    rw [if_neg fun owed => owes.mp owed settled, List.append_nil]
  · rename_i owed
    rw [if_pos (owes.mpr owed)]

end Routine

namespace Trial

variable (trial : Trial) {make : Maker σ} {dir : String} {made : Made σ} {task : Task}

/-- At an instant a trial stands at a wait in the sandbox that has been made for it. -/
def StandsAt (made : Made σ) (dir : String) (task : Task) (instant : Nat)
    (s : Suspended σ Empty Outcome) : Prop :=
  (trial.inside made.backend.takesDirs (taskNameOf dir) task).StandsAt made.backend (made.course 0)
    instant s

theorem course_clean (made : Made σ) : .stop ∉ (made.course 0).calls := by
  simp [Course.calls, Made.course]

theorem course_isPast (made : Made σ) : (made.course 0).IsPast := by
  simp [Course.IsPast, Made.course]

theorem course_isOver (made : Made σ) : (made.course 0).IsOver := by
  simp [Course.IsOver, Made.course]

/-- **Drops.** A trial that gets a sandbox which is not to be kept makes one stop, and it stands at
a wait at every instant until it is over. Dropped at any of them, whatever state its sandbox is left
in:

* a stop is carried through exactly unless the trial waits for its own stop at the instant;
* what is recorded of the trial is what it has done by then and, exactly if its own stop has not
  begun, the stop of its guard. -/
theorem stop_abandoned_iff (boxed : trial.begin make dir = .inSandbox made task)
    (removed : trial.config.keepSandbox = false) :
    ∃ stop, IsOnlyStop stop (trial.run make dir).entries ∧
      stop.ended ≤ (trial.run make dir).length ∧
      (∀ instant < (trial.run make dir).length, ∃ s, trial.StandsAt made dir task instant s) ∧
      ∀ instant s, trial.StandsAt made dir task instant s →
        (∀ left, s.StopsThrough made.backend false instant left ↔
          ¬ (stop.began ≤ instant ∧ instant < stop.ended)) ∧
        (trial.run make dir).cutAt false instant = (s.course.cut instant).entries.toList ++
          if instant < stop.began then [⟨.stop, instant, instant, true⟩] else [] := by
  have guarded := removed ▸ trial.inside_guarded made.backend.takesDirs (taskNameOf dir) task
  have clean := course_clean made
  have past := course_isPast made
  rw [trial.run_inSandbox make dir boxed]
  obtain ⟨stop, one⟩ := (guarded.perform made.backend clean).exists_stop
  refine ⟨stop, one, ?_, fun instant going => ?_, fun instant s stands => ⟨?_, ?_⟩⟩
  · exact Routine.perform_isOver (course_isOver made) stop (Array.mem_toList_iff.mp one.mem)
  · exact Routine.exists_standsAt (Nat.zero_le _) going
  · exact guarded.stopsThrough_iff clean past stands one
  · have owes := guarded.owesStop_iff clean past stands one
    simpa only [owes] using guarded.cutAt_eq clean past stands _ _ _

/-! ## A slow stop -/

/-- A sandbox that does not start and takes a tenth of a second to stop. -/
def slowBox : Made (List Script.Rule) :=
  ⟨Script.backend "box" true,
    [{ on := .start, error := some (.start "no image") }, { on := .stop, delay := 100 }]⟩

theorem plain_begin_slow :
    plain.begin (fun _ => .value slowBox) "a" = .inSandbox slowBox plainTask :=
  plain.begin_made plain_load rfl

theorem stop_abandoned_iff_slow :
    plain.begin (fun _ => .value slowBox) "a" = .inSandbox slowBox plainTask ∧
      plain.config.keepSandbox = false ∧
      ∃ stop, IsOnlyStop stop (plain.run (fun _ => .value slowBox) "a").entries ∧
        ∀ s, plain.StandsAt slowBox "a" plainTask 50 s → ∀ left,
          s.StopsThrough slowBox.backend false 50 left ↔ ¬ (stop.began ≤ 50 ∧ 50 < stop.ended) := by
  obtain ⟨stop, one, -, -, drops⟩ := plain.stop_abandoned_iff plain_begin_slow rfl
  exact ⟨plain_begin_slow, rfl, stop, one, fun s stands => (drops 50 s stands).1⟩

/-- The trial as it waits for its stop, right after the start has failed. -/
def slowWait : Suspended (List Script.Rule) Empty Outcome :=
  ((plain.inside true "a" plainTask).advance slowBox.backend false (slowBox.course 0)).resume
    slowBox.backend

/-- A trial that is dropped halfway through its stop leaves its sandbox without any. -/
theorem slow_stop_abandoned :
    plain.begin (fun _ => .value slowBox) "a" = .inSandbox slowBox plainTask ∧
      plain.config.keepSandbox = false ∧
      plain.StandsAt slowBox "a" plainTask 50 slowWait ∧
      ∀ left, ¬ slowWait.StopsThrough slowBox.backend false 50 left := by
  have entries : slowWait.course.entries = #[⟨.start, 0, 0, false⟩, ⟨.stop, 0, 100, true⟩] := rfl
  have stands : plain.StandsAt slowBox "a" plainTask 50 slowWait :=
    ⟨0, .next .first, Nat.zero_le _, by decide +kernel⟩
  refine ⟨plain_begin_slow, rfl, stands, fun left => ?_⟩
  rw [Suspended.StopsThrough, Guard.stop_mem_dropping, entries]
  rintro (⟨e, mem, isStop, ended⟩ | owed | none)
  · obtain rfl | rfl : e = ⟨.start, 0, 0, false⟩ ∨ e = ⟨.stop, 0, 100, true⟩ := by simpa using mem
    · cases isStop
    · exact absurd ended (by decide)
  · cases owed
  · cases none

end Trial

end AgentTrial
