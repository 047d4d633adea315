import AgentTrial.Batch
import AgentTrial.Proofs.Routine.Perform

/-!
# Delay

A trial of a batch begins at an instant of the batch, while its sandbox goes by the time since then.
Nothing depends on that instant but the deadline, which the clock has to reach.

* **Later** — courses and timelines are moved in time as a whole (`Course.later`,
  `Timeline.later`).
* **Agreement** — a routine that begins later does the same, later, as long as the clock reaches its
  deadlines to the end (`perform_later`).
-/

namespace AgentTrial

variable {σ ε α : Type}

/-- A sandbox whose trial begins at an instant: it answers by the time since then. -/
def Backend.since (backend : Backend σ) (start : Nat) : Backend σ :=
  { backend with respond := fun box now call => backend.respond box (now - start) call }

/-- A course in the time of a batch in which it begins at an instant. -/
def Course.later (c : Course σ) (start : Nat) : Course σ :=
  { c with now := c.now + start, entries := c.entries.map (Batch.shift start) }

/-- A trial in the time of a batch in which it begins at an instant. Its length becomes the instant
at which it ends. -/
def Timeline.later (t : Timeline) (start : Nat) : Timeline :=
  { t with length := t.length + start, entries := t.entries.map (Batch.shift start) }

/-- A clock that reaches a deadline reaches all that are as far from an earlier instant. -/
theorem Clock.reaches_of_le {clock : Clock} {earlier now secs : Nat} (h : clock.reaches now secs)
    (le : earlier ≤ now) : clock.reaches earlier secs := by
  rw [Clock.reaches, decide_eq_true_iff] at h ⊢
  have := Nat.div_le_div_right (c := 1000) (Nat.add_le_add_left le clock.uptime)
  omega

namespace Backend

variable (backend : Backend σ) (start : Nat) (asked : Call) (c : Course σ)

theorem since_call : (backend.since start).call asked (c.later start) =
    ((backend.call asked c).1, (backend.call asked c).2.later start) := by
  simp [Backend.call, Backend.since, Course.later, Batch.shift, Nat.add_right_comm]

theorem since_callWithin (limit : Nat) :
    (backend.since start).callWithin limit asked (c.later start) =
      ((backend.callWithin limit asked c).1, (backend.callWithin limit asked c).2.later start) := by
  simp only [Backend.callWithin, Backend.since, Course.later, Nat.add_sub_cancel]
  split <;> simp [Batch.shift, Nat.add_right_comm]

end Backend

namespace Routine

/-- What a routine may come to that has no deadlines but those of so many seconds by one clock. -/
def Deed.Timed (clock : Clock) (testSecs : Nat) : Deed → Prop
  | .deadline told secs => told = clock ∧ secs = testSecs
  | _ => True

/-- **Delay.** A routine that begins later does the same at later instants, when the clock reaches
its deadlines up to the end, by which of the two it may be told. -/
theorem perform_later (backend : Backend σ) (start : Nat) {clock : Clock} {testSecs last : Nat}
    (r : Routine ε α) (timed : r.All (Deed.Timed clock testSecs)) (c : Course σ)
    (reached : clock.reaches last testSecs)
    (within : (r.perform (backend.since start) (c.later start)).2.now ≤ last ∨
      (r.perform backend c).2.now + start ≤ last) :
    r.perform (backend.since start) (c.later start) =
      ((r.perform backend c).1, (r.perform backend c).2.later start) := by
  induction r generalizing c with
  | ended ending => rfl
  | call asked next ih =>
      simp only [perform, backend.since_call] at within ⊢
      exact ih _ (timed.2 _) _ within
  | callWithin limit asked next ih =>
      simp only [perform, backend.since_callWithin] at within ⊢
      -- the time that the call took is the same
      have took : ((backend.callWithin limit asked c).2.later start).now - (c.later start).now =
          (backend.callWithin limit asked c).2.now - c.now := Nat.add_sub_add_right _ _ _
      rw [took] at within ⊢
      exact ih _ _ (timed.2 _ _) _ within
  | sleep millis next ih =>
      have moved : ({ c.later start with now := (c.later start).now + millis } : Course σ) =
          Course.later { c with now := c.now + millis } start := by
        simp [Course.later, Nat.add_right_comm]
      simp only [perform, moved] at within ⊢
      exact ih timed _ within
  | note event next ih => exact ih timed { c with log := c.log.push event } within
  | deadline shown secs next ih =>
      obtain ⟨rfl, rfl⟩ : shown = clock ∧ secs = testSecs := timed.1
      -- both clocks reach the deadline, since the later one does at the end
      have before : (c.later start).now ≤ last := by
        obtain late | early := within
        · exact Nat.le_trans (perform_now_le _ (.deadline shown secs next) _) late
        · have first := perform_now_le backend (.deadline shown secs next) c
          exact Nat.le_trans (Nat.add_le_add_right first start) early
      have told : shown.reaches (c.later start).now secs = true :=
        Clock.reaches_of_le reached before
      have early : shown.reaches c.now secs = true :=
        Clock.reaches_of_le told (Nat.le_add_right _ _)
      simp only [perform, told, early] at within ⊢
      exact ih true (timed.2 true) c within
  | release next ih => exact ih timed.2 c within

end Routine

end AgentTrial
