import AgentTrial.Proofs.Routine.Conversation
import AgentTrial.Proofs.Routine.Suspension

/-!
# Waits

A routine that is performed waits at every instant from its beginning to its end, and it can be
dropped at any of them.

* **Instants** — at every instant before the end there is a wait (`exists_standsAt`).
* **Record** — what is recorded at a wait is what the whole routine records of the calls that it has
  made by then (`StandsAt.entries_eq`, `StandsAt.upTo`).
-/

namespace AgentTrial

/-- Every call of a course was over by the instant that the clock shows. -/
def Course.IsOver {σ : Type} (c : Course σ) : Prop := ∀ e ∈ c.entries, e.ended ≤ c.now

namespace Routine

variable {σ ε α : Type} {backend : Backend σ} {r : Routine ε α} {c : Course σ}

/-- The waits of a routine that is performed: since when it waits, and how it goes on afterwards. -/
inductive Waits (backend : Backend σ) (r : Routine ε α) (c : Course σ) :
    Nat → Suspended σ ε α → Prop where
  | first : Waits backend r c c.now (r.advance backend false c)
  | next {since s} (earlier : Waits backend r c since s) :
      Waits backend r c s.course.now (s.resume backend)

/-- At an instant the routine stands at a wait, which is not over then. -/
def StandsAt (backend : Backend σ) (r : Routine ε α) (c : Course σ) (instant : Nat)
    (s : Suspended σ ε α) : Prop :=
  ∃ since, r.Waits backend c since s ∧ since ≤ instant ∧ instant < s.course.now

/-! ## Instants -/

namespace Waits

/-- From every wait the routine comes to the same end. -/
theorem finish {since : Nat} {s : Suspended σ ε α} (h : r.Waits backend c since s) :
    s.finish backend = r.perform backend c := by
  induction h with
  | first => exact r.finish_advance backend false c
  | next _ ih => exact (Suspended.finish_resume backend _).trans ih

/-- From a wait that began by an instant the routine comes to the one that it stands at then. -/
theorem exists_standsAt {instant since : Nat} {s : Suspended σ ε α}
    (h : r.Waits backend c since s) (begun : since ≤ instant)
    (going : instant < (r.perform backend c).2.now) : ∃ s, r.StandsAt backend c instant s := by
  by_cases here : instant < s.course.now
  · exact ⟨s, since, h, begun, here⟩
  · -- the wait is over by then, and the routine has not ended
    have unended : ∀ ending, s.rest ≠ .ended ending := by
      intro ending ended
      rw [← h.finish, s.finish_ended backend ended] at going
      exact here going
    exact h.next.exists_standsAt (Nat.not_lt.mp here) going
termination_by s.size backend
decreasing_by exact s.size_resume_lt backend unended

end Waits

/-- **Instants.** A routine that has begun by an instant and is not over stands at a wait. -/
theorem exists_standsAt {instant : Nat} (begun : c.now ≤ instant)
    (going : instant < (r.perform backend c).2.now) : ∃ s, r.StandsAt backend c instant s :=
  Waits.first.exists_standsAt begun going

/-! ## Record -/

theorem advance_began_le (released : Bool) (past : c.IsPast) :
    ∀ e ∈ (r.advance backend released c).course.entries, e.began ≤ c.now := by
  intro e mem
  obtain same | ⟨last, began, -, -, more⟩ := r.advance_entries backend released c
  · exact past e (same ▸ mem)
  · rw [more, Array.mem_push] at mem
    obtain old | rfl := mem
    · exact past e old
    · exact Nat.le_of_eq began

theorem advance_isOver (released : Bool) (isOver : c.IsOver) :
    (r.advance backend released c).course.IsOver := by
  have later := r.advance_now_le backend released c
  intro e mem
  obtain same | ⟨last, -, -, ended, more⟩ := r.advance_entries backend released c
  · exact Nat.le_trans (isOver e (same ▸ mem)) later
  · rw [more, Array.mem_push] at mem
    obtain old | rfl := mem
    · exact Nat.le_trans (isOver e old) later
    · exact ended

/-- When a routine has ended all its calls are over. -/
theorem perform_isOver (isOver : c.IsOver) : (r.perform backend c).2.IsOver := by
  obtain ⟨t, kept, -, last⟩ := Suspended.finish_invariant backend
    (fun s : Suspended σ ε α => s.course.IsOver)
    (fun s kept => advance_isOver s.released kept) (advance_isOver (r := r) false isOver)
  rw [← r.finish_advance backend false c, ← last]
  exact kept

theorem Waits.isPast {since : Nat} {s : Suspended σ ε α} (past : c.IsPast)
    (h : r.Waits backend c since s) : s.course.IsPast := by
  induction h with
  | first => exact r.advance_isPast backend false past
  | @next _ s _ ih => exact s.rest.advance_isPast backend s.released ih

theorem Waits.began_le {since : Nat} {s : Suspended σ ε α} (past : c.IsPast)
    (h : r.Waits backend c since s) : ∀ e ∈ s.course.entries, e.began ≤ since := by
  cases h with
  | first => exact advance_began_le false past
  | @next _ s earlier => exact advance_began_le s.released (earlier.isPast past)

namespace StandsAt

variable {instant : Nat} {s : Suspended σ ε α}

/-- The calls of a whole routine are those that were made by an instant and those that are made
after it. -/
theorem entries_eq (past : c.IsPast) (h : r.StandsAt backend c instant s) :
    ∃ later, (r.perform backend c).2.entries.toList = s.course.entries.toList ++ later ∧
      (∀ e ∈ s.course.entries, e.began ≤ instant) ∧ ∀ e ∈ later, instant < e.began := by
  obtain ⟨since, waits, begun, going⟩ := h
  refine ⟨(s.rest.talk backend s.course).map Exchange.entry, ?_, fun e mem => ?_, fun e mem => ?_⟩
  · rw [← waits.finish]
    exact perform_entries backend s.rest s.course
  · exact Nat.le_trans (waits.began_le past e mem) begun
  · obtain ⟨x, said, rfl⟩ := List.mem_map.mp mem
    exact Nat.lt_of_lt_of_le going (talk_le_began backend s.rest s.course x said)

/-- What is recorded at a wait is what was made by the instant of all that is recorded in the
end. -/
theorem upTo (past : c.IsPast) (h : r.StandsAt backend c instant s) :
    (r.perform backend c).2.entries.toList.filter (·.began ≤ instant) =
      s.course.entries.toList := by
  obtain ⟨later, all, before, after⟩ := h.entries_eq past
  -- all that was made by then is kept, and nothing of what comes later
  rw [all, List.filter_append, List.filter_eq_self.mpr, List.filter_eq_nil_iff.mpr,
    List.append_nil]
  · simpa using after
  · simpa using before

/-- The routine is not over at an instant at which it stands at a wait. -/
theorem lt_now (h : r.StandsAt backend c instant s) : instant < (r.perform backend c).2.now := by
  obtain ⟨since, waits, -, going⟩ := h
  rw [← waits.finish]
  exact Nat.lt_of_lt_of_le going (s.rest.perform_now_le backend s.course)

end StandsAt

end Routine

end AgentTrial
