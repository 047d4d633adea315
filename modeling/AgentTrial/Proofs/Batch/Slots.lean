import Mathlib.Data.List.Zip
import AgentTrial.Batch
import AgentTrial.Proofs.Trial.Teardown

/-!
# Slots

The plan of a batch gives each trial the first slot that is free.

* **Plan** — at every instant no more trials are on than there are slots
  (`countP_on_add_busy_le`): an induction on the trials, which counts the slots that are in use as
  trials of their own.
* **Sandboxes** — a sandbox is up only while its trial is on (`lt_of_isUpAt`,
  `Placed.isOn_of_isUpAt`), as its stop is made before the trial ends.
-/

namespace AgentTrial.Batch

/-! ## The plan -/

/-- Whether a trial with a start and a length is on at an instant. -/
def isOn (instant : Nat) (trial : Nat × Nat) : Bool :=
  trial.1 ≤ instant && instant < trial.1 + trial.2

/-- When all slots are in use, one of them gets free first. -/
theorem exists_first {slots : Nat} (anySlot : 0 < slots) {busy : List Nat}
    (full : ¬ busy.length < slots) :
    ∃ first, busy.min? = some first ∧ (busy.erase first).length + 1 = busy.length := by
  obtain ⟨first, isFirst⟩ : ∃ first, busy.min? = some first := by
    cases busy with
    | nil => exact absurd anySlot full
    | cons b bs => exact ⟨_, rfl⟩
  have mem : first ∈ busy := List.min?_mem isFirst
  refine ⟨first, isFirst, ?_⟩
  rw [List.length_erase_of_mem mem]
  exact Nat.sub_add_cancel (List.length_pos_of_mem mem)

/-- **Plan.** The trials that are on at an instant, together with the slots that are in use beyond
it, are no more than the slots. -/
theorem countP_on_add_busy_le (slots : Nat) (anySlot : 0 < slots) (instant : Nat)
    (busy lengths : List Nat) (room : busy.length ≤ slots) :
    ((starts slots busy lengths).zip lengths).countP (isOn instant) +
      busy.countP (instant < ·) ≤ slots := by
  induction lengths generalizing busy with
  | nil =>
      have := busy.countP_le_length (p := (instant < ·))
      simp only [List.zip_nil_right, List.countP_nil]
      omega
  | cons length rest ih =>
      rw [starts]
      split
      · -- a slot that was never used: the trial begins at once
        rename_i free
        have later := ih (length :: busy) free
        simp only [List.zip_cons_cons, List.countP_cons, isOn, decide_eq_true_iff, Nat.zero_add,
          Nat.zero_le, decide_true, Bool.true_and] at later ⊢
        omega
      · -- the slot that gets free first is taken over
        rename_i full
        obtain ⟨first, isFirst, others⟩ := exists_first anySlot full
        have mem : first ∈ busy := List.min?_mem isFirst
        have later := ih ((first + length) :: busy.erase first) (by simp; omega)
        have count : busy.countP (instant < ·) = (first :: busy.erase first).countP (instant < ·) :=
          (List.perm_cons_erase mem).countP_eq _
        rw [count, isFirst, Option.getD_some]
        simp only [List.zip_cons_cons, List.countP_cons, isOn, decide_eq_true_iff,
          Bool.and_eq_true] at later ⊢
        split <;> split <;> split at later <;> omega

/-! ## Sandboxes -/

theorem isUpAt_iff (instant : Nat) (entries : List Entry) :
    isUpAt instant entries ↔
      ∃ start, entries.find? (fun e => e.call == .start && e.answered) = some start ∧
        start.ended ≤ instant ∧
        ∀ stop, entries.find? Timeline.isStop = some stop → instant < stop.began := by
  rw [isUpAt, upTime?]
  cases entries.find? fun e => e.call == .start && e.answered with
  | none => simp
  | some start => cases entries.find? Timeline.isStop <;> simp

/-- A sandbox that has been torn down was up before its last call only. -/
theorem lt_of_isUpAt {entries : List Entry} {instant last : Nat} (up : isUpAt instant entries)
    (down : TornDown false (entries.map (·.call))) (past : ∀ e ∈ entries, e.began ≤ last) :
    instant < last := by
  obtain ⟨start, -, -, before⟩ := (isUpAt_iff _ _).mp up
  obtain ⟨calls, split, -⟩ := down
  have stopped : .stop ∈ entries.map (·.call) := by rw [split]; simp
  obtain ⟨e, mem, eq⟩ := List.mem_map.mp stopped
  obtain ⟨stop, found⟩ := Option.isSome_iff_exists.mp
    (List.find?_isSome.mpr ⟨e, mem, (Timeline.isStop_iff e).mpr eq⟩)
  exact Nat.lt_of_lt_of_le (before stop found) (past stop (List.mem_of_find?_eq_some found))

/-- A sandbox is up from the end of one of its calls on. -/
theorem le_of_isUpAt {entries : List Entry} {instant first : Nat} (up : isUpAt instant entries)
    (future : ∀ e ∈ entries, first ≤ e.ended) : first ≤ instant := by
  obtain ⟨start, found, ended, -⟩ := (isUpAt_iff _ _).mp up
  exact Nat.le_trans (future start (List.mem_of_find?_eq_some found)) ended

theorem shift_calls (start : Nat) (entries : List Entry) :
    (entries.map (shift start)).map (·.call) = entries.map (·.call) := by
  rw [List.map_map]
  rfl

/-- Nothing that is left of a trial that is dropped is later than its end. -/
theorem cutAt_began_le {t : Timeline} (past : ∀ e ∈ t.entries, e.began ≤ t.length) (keep : Bool)
    (cut : Nat) : ∀ e ∈ t.cutAt keep cut, e.began ≤ t.length := by
  have made : ∀ e ∈ (t.entries.filter (·.began ≤ cut)).map (Timeline.cutEntry cut),
      e.began ≤ t.length := by
    intro e mem
    obtain ⟨old, kept, rfl⟩ := List.mem_map.mp mem
    have began := past old (List.mem_filter.mp kept).1
    rw [Timeline.cutEntry]
    split <;> exact began
  rw [Timeline.cutAt]
  split
  · exact past
  · rename_i going
    dsimp only
    split
    · exact made
    · intro e mem
      obtain old | last := List.mem_append.mp mem
      · exact made e old
      · rw [List.mem_singleton.mp last]
        exact Nat.le_of_not_le going

variable {σ : Type} (trial : Trial) (make : Maker σ)

/-- A sandbox of the batch is up only while its trial is on. -/
theorem Placed.isOn_of_isUpAt (stops : trial.config.keepSandbox = false) {p : Placed}
    (own : p.timeline = trial.run make p.dir) {entries : List Entry} {cut instant : Nat}
    (left : p.cutAt false cut = some entries) (up : isUpAt instant entries) :
    isOn instant (p.start, p.timeline.length) := by
  rw [Placed.cutAt] at left
  split at left
  · rename_i on
    obtain rfl := Option.some.inj left
    rw [own] at on up ⊢
    have down := trial.run_tornDown make p.dir on.1
    rw [stops] at down
    have past := cutAt_began_le (trial.run_began_le make p.dir) false (cut - p.start)
    have first : p.start ≤ instant := by
      refine le_of_isUpAt up fun e mem => ?_
      obtain ⟨own, -, rfl⟩ := List.mem_map.mp mem
      exact Nat.le_add_left _ _
    have last : instant < p.start + (trial.run make p.dir).length := by
      refine lt_of_isUpAt up ?_ fun e mem => ?_
      · rw [shift_calls]
        exact Timeline.cutAt_tornDown down on.1 (cut - p.start)
      · obtain ⟨own, kept, rfl⟩ := List.mem_map.mp mem
        have := past own kept
        show own.began + p.start ≤ _
        omega
    simp [isOn, first, last]
  · cases left

theorem place_spans (slots : Nat) (trials : List (String × Timeline)) :
    (place slots trials).map (fun p => (p.start, p.timeline.length)) =
      (starts slots [] (trials.map (·.2.length))).zip (trials.map (·.2.length)) := by
  rw [place, List.map_map, List.zip_map_right, ← List.zip_swap, List.map_map]
  rfl

theorem starts_length (slots : Nat) (busy lengths : List Nat) :
    (starts slots busy lengths).length = lengths.length := by
  induction lengths generalizing busy with
  | nil => rfl
  | cons length rest ih =>
      rw [starts]
      split
      · simp [ih]
      · simp [ih]

/-- The placed trials are the trials in their order. -/
theorem place_trials (slots : Nat) (trials : List (String × Timeline)) :
    (place slots trials).map (fun p => (p.dir, p.timeline)) = trials := by
  rw [place, List.map_map]
  refine List.map_fst_zip (Nat.le_of_eq ?_)
  rw [starts_length, List.length_map]

/-- A trial of the plan is the trial of its directory on its own. -/
theorem place_run {slots : Nat} {dirs : List String} {p : Placed}
    (mem : p ∈ place slots (dirs.map fun dir => (dir, trial.run make dir))) :
    p.timeline = trial.run make p.dir := by
  have trials := List.mem_map_of_mem (f := fun p => (p.dir, p.timeline)) mem
  rw [place_trials] at trials
  obtain ⟨dir, -, eq⟩ := List.mem_map.mp trials
  rw [← (Prod.mk.inj eq).1, ← (Prod.mk.inj eq).2]

/-- The sandboxes of a batch that are up at an instant, whenever it is dropped. -/
theorem upCount_place_le (stops : trial.config.keepSandbox = false) {slots : Nat}
    (anySlot : 0 < slots) (dirs : List String) (cut instant : Nat) :
    upCount ((place slots (dirs.map fun dir => (dir, trial.run make dir))).filterMap
      (·.cutAt false cut)) instant ≤ slots := by
  rw [upCount, ← List.countP_eq_length_filter, List.countP_filterMap]
  have plan := countP_on_add_busy_le slots anySlot instant []
    ((dirs.map fun dir => (dir, trial.run make dir)).map (·.2.length)) (Nat.zero_le _)
  rw [← place_spans, List.countP_map] at plan
  refine Nat.le_trans (List.countP_mono_left fun p mem up => ?_) (Nat.le_of_add_right_le plan)
  have own := place_run trial make mem
  cases left : p.cutAt false cut with
  | none => simp [left] at up
  | some entries =>
      rw [left] at up
      exact Placed.isOn_of_isUpAt trial make stops own left up

end AgentTrial.Batch
