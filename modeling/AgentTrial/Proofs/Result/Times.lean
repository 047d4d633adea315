import AgentTrial.Proofs.Time.Instant
import AgentTrial.Result.Outcome

/-!
# The times of a result

When a result begins and ends, for every instant and every length of time.

* **Times** — a result ends as much later as its trial took, and never before it began. It stands
  still for a length that is more than any shift, and crashes where the calendar ends in between
  (`new_timed`, `calendar_end_crashes`).
* **No trial** — a failure that is recorded without a trial is one that took no time
  (`new_failed`).
-/

namespace AgentTrial.TaskResult

/-- The times of a result that began at an instant and took a length of time. -/
structure Timed (f : Finding) (t : Instant) (d : Duration) (r : TaskResult) : Prop where
  found : (⟨r.taskName, r.sandboxId, r.outcome⟩ : Finding) = f
  startedAt : r.startedAt = t
  valid : r.completedAt.IsValid
  le_completedAt : t ≤ r.completedAt
  /-- Where the calendar has the sum, a clock counts its length from beginning to end, … -/
  elapsed : t.Fits d → r.completedAt.reading = t.reading + d.nanos
  /-- … and it is the difference of the instants, unless that forgets a leap second. -/
  since_iff : t.Fits d → (r.completedAt.since t = d.nanos ↔ ¬ t.Forgets r.completedAt)
  /-- Where it does not, the result ends when it began. -/
  still : ¬ t.Fits d → r.completedAt = t

section Times

variable (f : Finding) {t : Instant} (d : Duration)

/-- **Times.** A finding gets its times, whatever they are, unless the calendar ends before the
trial does. The end of the calendar is then a crash, save for a length that is more than any shift. -/
theorem new_timed (valid : t.IsValid) :
    (t.Fits d ∨ Instant.maxShift.nanos < d.nanos → ∃ r, new f t d = .ok r ∧ r.Timed f t d) ∧
    (¬ t.Fits d → d.nanos ≤ Instant.maxShift.nanos →
      new f t d = .error (.message Instant.overflowText)) := by
  unfold new
  rcases Instant.add_cases valid d with ⟨fits, sum⟩ | ⟨beyond, long, sum⟩ | ⟨beyond, short, sum⟩
  · rw [sum]
    refine ⟨fun _ => ⟨_, rfl, ?_⟩, fun beyond => absurd fits beyond⟩
    exact {
      found := rfl
      startedAt := rfl
      valid := Instant.isValid_shift valid fits
      le_completedAt := Instant.le_shift valid
      elapsed := fun _ => Instant.reading_shift valid
      since_iff := fun _ => Instant.since_shift_iff valid d
      still := fun beyond => absurd fits beyond }
  · rw [sum]
    refine ⟨fun _ => ⟨_, rfl, ?_⟩, fun _ short => absurd long (Nat.not_lt.mpr short)⟩
    exact {
      found := rfl
      startedAt := rfl
      valid := valid
      le_completedAt := .inr ⟨rfl, .inr ⟨rfl, Nat.le_refl _⟩⟩
      elapsed := fun fits => absurd fits beyond
      since_iff := fun fits => absurd fits beyond
      still := fun _ => rfl }
  · rw [sum]
    refine ⟨fun returns => ?_, fun _ _ => rfl⟩
    rcases returns with fits | long
    · exact absurd fits beyond
    · exact absurd long (Nat.not_lt.mpr short)

end Times

/-- A verdict without tests, to be given times. -/
def passing : Finding := ⟨"t", none, .success true none⟩

/-- Half past the leap second before the year 2017. -/
def leapSecond : Instant := ⟨17166, 86399, 1500000000⟩

theorem leapSecond_isValid : leapSecond.IsValid := by
  constructor <;> decide

/-- A trial of a second and a half that began in a leap second ends with the first second of the new
year, and their difference forgets the leap second. A longer one leaves the calendar, and one that
is too long for that takes no time. -/
theorem new_timed_leapSecond :
    (∃ r, new passing leapSecond ⟨1500000000⟩ = .ok r ∧
      r.Timed passing leapSecond ⟨1500000000⟩ ∧ r.completedAt = ⟨17167, 1, 0⟩ ∧
      r.completedAt.since leapSecond ≠ 1500000000) ∧
    new passing leapSecond Instant.maxShift = .error (.message Instant.overflowText) ∧
    (∃ r, new passing leapSecond ⟨Instant.maxShift.nanos + 1⟩ = .ok r ∧
      r.completedAt = leapSecond) := by
  have fits : leapSecond.Fits ⟨1500000000⟩ := by unfold Instant.Fits; decide
  have long : ¬ leapSecond.Fits Instant.maxShift := by unfold Instant.Fits; decide
  have longer : ¬ leapSecond.Fits ⟨Instant.maxShift.nanos + 1⟩ := by unfold Instant.Fits; decide
  refine ⟨?_, (new_timed passing _ leapSecond_isValid).2 long (Nat.le_refl _), ?_⟩
  · obtain ⟨r, value, timed⟩ :=
      (new_timed passing ⟨1500000000⟩ leapSecond_isValid).1 (.inl fits)
    have ends : r.completedAt = ⟨17167, 1, 0⟩ := by
      cases value
      decide
    refine ⟨r, value, timed, ends, fun same => (timed.since_iff fits).mp same ?_⟩
    rw [ends]
    unfold Instant.Forgets
    decide
  · obtain ⟨r, value, timed⟩ :=
      (new_timed passing _ leapSecond_isValid).1 (.inr (Nat.lt_succ_self _))
    exact ⟨r, value, timed.still longer⟩

/-- A trial that began in 1970 and took `2 ^ 53` seconds. That is no more than any shift, yet more
than the calendar has, and the result is lost in a crash. -/
theorem calendar_end_crashes :
    (⟨0, 0, 0⟩ : Instant).IsValid ∧
    (Duration.ofSecs (Nat.pow 2 53)).nanos ≤ Instant.maxShift.nanos ∧
    new passing ⟨0, 0, 0⟩ (.ofSecs (Nat.pow 2 53)) = .error (.message Instant.overflowText) := by
  refine ⟨by constructor <;> decide, by decide, ?_⟩
  rfl

/-! ## No trial -/

/-- A failure without a trial is a finding that took no time, at an instant of the calendar. -/
theorem new_failed (taskName : String) (stage : Option Stage) (error : String) {now : Instant}
    (valid : now.IsValid) :
    new ⟨taskName, none, .failed stage error⟩ now ⟨0⟩ = .ok (failed taskName stage error now) := by
  have sum : now.add ⟨0⟩ = .ok now := by
    unfold Instant.add
    simp only [ite_self, Instant.shift_zero valid, if_pos valid.day_le]
  rw [new, sum]
  rfl

end AgentTrial.TaskResult
