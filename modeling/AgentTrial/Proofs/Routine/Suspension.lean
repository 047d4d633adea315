import AgentTrial.Proofs.Routine.Perform

/-!
# Suspended routines

A routine done piece by piece: it runs up to its next wait, and is resumed once the wait is over.
Only between two waits can others run, and only there can it be dropped.

* **Agreement** — resuming a routine until it has ended is performing it
  (`Suspended.finish_resume`, `Suspended.finish_ended`).
* **Progress** — every piece leaves less to do (`Suspended.size_resume_lt`).
* **One wait a piece** — a piece makes one call at most, right at its beginning in time
  (`advance_entries`), so calls are never recorded ahead of time (`perform_isPast`).
-/

namespace AgentTrial

/-- A routine at a wait: what is left of it when the wait is over, whether the guard of the sandbox
has been released, and what has happened. The clock of the course shows when the wait is over. -/
structure Suspended (σ ε α : Type) where
  rest : Routine ε α
  released : Bool
  course : Course σ

variable {σ ε α : Type}

/-- Does a routine up to its next wait, or to its end. -/
def Routine.advance (backend : Backend σ) : Routine ε α → Bool → Course σ → Suspended σ ε α
  | .ended ending, released, c => ⟨.ended ending, released, c⟩
  | .call asked next, released, c =>
    let (ending, d) := backend.call asked c
    ⟨next ending, released, d⟩
  | .callWithin limit asked next, released, c =>
    let (ending, d) := backend.callWithin limit asked c
    ⟨next (d.now - c.now) ending, released, d⟩
  | .sleep millis next, released, c => ⟨next, released, { c with now := c.now + millis }⟩
  | .note event next, released, c =>
    next.advance backend released { c with log := c.log.push event }
  | .deadline clock secs next, released, c =>
    (next (clock.reaches c.now secs)).advance backend released c
  | .release next, _, c => next.advance backend true c

/-- The number of things that a routine does when it is performed. -/
def Routine.size (backend : Backend σ) : Routine ε α → Course σ → Nat
  | .ended _, _ => 0
  | .call asked next, c =>
    let (ending, d) := backend.call asked c
    (next ending).size backend d + 1
  | .callWithin limit asked next, c =>
    let (ending, d) := backend.callWithin limit asked c
    (next (d.now - c.now) ending).size backend d + 1
  | .sleep millis next, c => next.size backend { c with now := c.now + millis } + 1
  | .note event next, c => next.size backend { c with log := c.log.push event } + 1
  | .deadline clock secs next, c => (next (clock.reaches c.now secs)).size backend c + 1
  | .release next, c => next.size backend c + 1

namespace Suspended

/-- Does a routine, once its wait is over, up to its next wait. -/
def resume (backend : Backend σ) (s : Suspended σ ε α) : Suspended σ ε α :=
  s.rest.advance backend s.released s.course

/-- Does all that is left. -/
def finish (backend : Backend σ) (s : Suspended σ ε α) : Ending ε α × Course σ :=
  s.rest.perform backend s.course

/-- How much is left to do. -/
def size (backend : Backend σ) (s : Suspended σ ε α) : Nat := s.rest.size backend s.course

end Suspended

/-! ## Agreement -/

theorem Routine.finish_advance (backend : Backend σ) (r : Routine ε α) (released : Bool)
    (c : Course σ) : (r.advance backend released c).finish backend = r.perform backend c := by
  induction r generalizing released c with
  | ended => rfl
  | call asked next ih => rfl
  | callWithin limit asked next ih => rfl
  | sleep millis next ih => rfl
  | note event next ih => exact ih released { c with log := c.log.push event }
  | deadline clock secs next ih => exact ih _ released c
  | release next ih => exact ih true c

theorem Suspended.finish_resume (backend : Backend σ) (s : Suspended σ ε α) :
    (s.resume backend).finish backend = s.finish backend :=
  s.rest.finish_advance backend s.released s.course

theorem Suspended.finish_ended (backend : Backend σ) {s : Suspended σ ε α} {ending : Ending ε α}
    (h : s.rest = .ended ending) : s.finish backend = (ending, s.course) := by
  rw [Suspended.finish, h]
  rfl

/-! ## Progress -/

theorem Routine.size_advance_le (backend : Backend σ) (r : Routine ε α) (released : Bool)
    (c : Course σ) : (r.advance backend released c).size backend ≤ r.size backend c := by
  induction r generalizing released c with
  | ended => exact Nat.le_refl _
  | call asked next ih => exact Nat.le_succ _
  | callWithin limit asked next ih => exact Nat.le_succ _
  | sleep millis next ih => exact Nat.le_succ _
  | note event next ih =>
      exact Nat.le_succ_of_le (ih released { c with log := c.log.push event })
  | deadline clock secs next ih => exact Nat.le_succ_of_le (ih _ released c)
  | release next ih => exact Nat.le_succ_of_le (ih true c)

/-- A routine that has not ended has less to do after it was resumed. -/
theorem Suspended.size_resume_lt (backend : Backend σ) (s : Suspended σ ε α)
    (going : ∀ ending, s.rest ≠ .ended ending) :
    (s.resume backend).size backend < s.size backend := by
  obtain ⟨rest, released, c⟩ := s
  cases rest with
  | ended ending => exact absurd rfl (going ending)
  | call asked next => exact Nat.lt_succ_self _
  | callWithin limit asked next => exact Nat.lt_succ_self _
  | sleep millis next => exact Nat.lt_succ_self _
  | note event next => exact Nat.lt_succ_of_le (next.size_advance_le backend released _)
  | deadline clock secs next => exact Nat.lt_succ_of_le ((next _).size_advance_le backend released c)
  | release next => exact Nat.lt_succ_of_le (next.size_advance_le backend true c)

/-- **Invariants.** What every piece of a routine keeps holds when it has ended. -/
theorem Suspended.finish_invariant (backend : Backend σ) (P : Suspended σ ε α → Prop)
    (step : ∀ s, P s → P (s.resume backend)) {s : Suspended σ ε α} (start : P s) :
    ∃ t : Suspended σ ε α, P t ∧ t.rest = .ended (s.finish backend).1 ∧
      t.course = (s.finish backend).2 := by
  by_cases ended : ∃ ending, s.rest = .ended ending
  · obtain ⟨ending, h⟩ := ended
    rw [s.finish_ended backend h]
    exact ⟨s, start, h, rfl⟩
  · -- one more piece, which leaves less to do and the same to finish
    have less := s.size_resume_lt backend fun ending h => ended ⟨ending, h⟩
    rw [← s.finish_resume backend]
    exact finish_invariant backend P step (step s start)
termination_by s.size backend

/-! ## One wait a piece -/

theorem Routine.advance_now_le (backend : Backend σ) (r : Routine ε α) (released : Bool)
    (c : Course σ) : c.now ≤ (r.advance backend released c).course.now := by
  induction r generalizing released c with
  | ended => exact Nat.le_refl _
  | call asked next ih => exact call_now_le backend asked c
  | callWithin limit asked next ih => exact callWithin_now_le backend limit asked c
  | sleep millis next ih => exact Nat.le_add_right _ _
  | note event next ih => exact ih released { c with log := c.log.push event }
  | deadline clock secs next ih => exact ih _ released c
  | release next ih => exact ih true c

/-- What is recorded in one piece of a routine: nothing, or one call that is made at once and over
by the next wait. -/
theorem Routine.advance_entries (backend : Backend σ) (r : Routine ε α) (released : Bool)
    (c : Course σ) :
    (r.advance backend released c).course.entries = c.entries ∨
      ∃ e : Entry, e.began = c.now ∧ e.began ≤ e.ended ∧
        e.ended ≤ (r.advance backend released c).course.now ∧
        (r.advance backend released c).course.entries = c.entries.push e := by
  induction r generalizing released c with
  | ended => exact .inl rfl
  | call asked next ih => exact .inr ⟨_, rfl, Nat.le_add_right _ _, Nat.le_refl _, rfl⟩
  | callWithin limit asked next ih =>
      simp only [Routine.advance, Backend.callWithin]
      split
      · exact .inr ⟨_, rfl, Nat.le_add_right _ _, Nat.le_refl _, rfl⟩
      · exact .inr ⟨_, rfl, Nat.le_add_right _ _, Nat.le_refl _, rfl⟩
  | sleep millis next ih => exact .inl rfl
  | note event next ih => exact ih released { c with log := c.log.push event }
  | deadline clock secs next ih => exact ih _ released c
  | release next ih => exact ih true c

/-- Every call of a course was made by the instant that the clock shows. -/
def Course.IsPast (c : Course σ) : Prop := ∀ e ∈ c.entries, e.began ≤ c.now

theorem Routine.advance_isPast (backend : Backend σ) (r : Routine ε α) (released : Bool)
    {c : Course σ} (h : c.IsPast) : (r.advance backend released c).course.IsPast := by
  have later := r.advance_now_le backend released c
  intro e mem
  obtain same | ⟨last, began, -, -, more⟩ := r.advance_entries backend released c
  · rw [same] at mem
    exact Nat.le_trans (h e mem) later
  · rw [more, Array.mem_push] at mem
    obtain old | rfl := mem
    · exact Nat.le_trans (h e old) later
    · exact began ▸ later

theorem Routine.perform_isPast (backend : Backend σ) (r : Routine ε α) {c : Course σ}
    (h : c.IsPast) : (r.perform backend c).2.IsPast := by
  obtain ⟨t, past, -, last⟩ := Suspended.finish_invariant backend
    (fun s : Suspended σ ε α => s.course.IsPast)
    (fun s past => s.rest.advance_isPast backend s.released past)
    (r.advance_isPast backend false h)
  rw [← r.finish_advance backend false c, ← last]
  exact past

end AgentTrial
