import AgentTrial.Proofs.Routine.Perform

/-!
# Conversations

What passes between a routine and its sandbox: the calls with all that is heard of them, where the
record of calls keeps only whether they were answered.

* **Record** — the conversation is what is recorded (`perform_entries`), so what is shown of the one
  holds of the other.
* **Sequencing** — the conversation of `r.follow next` is that of `r` and then that of what follows
  (`talk_follow`).
* **Order** — calls follow one another, none beginning before the last is over (`talk_pairwise`).
* **Calm** — a sandbox that never crashes is heard of no crash (`talk_isCalm`).
-/

namespace AgentTrial

/-- How a call ends that is waited for without a limit. -/
def Ending.heard {ε α : Type} : Ending ε α → Ending ε (Option α)
  | .value a => .value (some a)
  | .error e => .error e
  | .crash p => .crash p

/-- A call with the instants at which it was made and at which its caller stopped waiting, and what
its caller heard by then. -/
structure Exchange where
  call : Call
  began : Nat
  ended : Nat
  heard : Ending SandboxError (Option call.Answer)

namespace Exchange

/-- Whether the call was answered without error. -/
def isAnswered (x : Exchange) : Bool :=
  match x.heard with
  | .value (some _) => true
  | _ => false

/-- What is recorded of an exchange. -/
def entry (x : Exchange) : Entry := ⟨x.call, x.began, x.ended, x.isAnswered⟩

/-- Whether the call did not crash. -/
def IsCalm (x : Exchange) : Prop := ∀ p, x.heard ≠ .crash p

end Exchange

namespace Routine

variable {σ ε ε' α β : Type}

/-- The conversation of a routine with a sandbox. -/
def talk (backend : Backend σ) : Routine ε α → Course σ → List Exchange
  | .ended _, _ => []
  | .call asked next, c =>
    let (ending, d) := backend.call asked c
    ⟨asked, c.now, d.now, ending.heard⟩ :: (next ending).talk backend d
  | .callWithin limit asked next, c =>
    let (ending, d) := backend.callWithin limit asked c
    ⟨asked, c.now, d.now, ending⟩ :: (next (d.now - c.now) ending).talk backend d
  | .sleep millis next, c => next.talk backend { c with now := c.now + millis }
  | .note event next, c => next.talk backend { c with log := c.log.push event }
  | .deadline clock secs next, c => (next (clock.reaches c.now secs)).talk backend c
  | .release next, c => next.talk backend c

theorem talk_follow (backend : Backend σ) (r : Routine ε α) (next : Ending ε α → Routine ε' β)
    (c : Course σ) :
    (r.follow next).talk backend c =
      r.talk backend c ++
        (next (r.perform backend c).1).talk backend (r.perform backend c).2 := by
  induction r generalizing c with
  | ended => rfl
  | call asked rest ih => simp only [follow, talk, perform, ih, List.cons_append]
  | callWithin limit asked rest ih => simp only [follow, talk, perform, ih, List.cons_append]
  | sleep millis rest ih => exact ih _
  | note event rest ih => exact ih _
  | deadline clock secs rest ih => exact ih _ _
  | release rest ih => exact ih c

theorem talk_bind (backend : Backend σ) (r : Routine ε α) (next : α → Routine ε β)
    (c : Course σ) :
    (r >>= next).talk backend c = r.talk backend c ++
      match (r.perform backend c).1 with
      | .value a => (next a).talk backend (r.perform backend c).2
      | _ => [] := by
  refine (talk_follow backend r _ c).trans ?_
  cases (r.perform backend c).1 <;> rfl

/-- What holds of a whole conversation holds of its two parts, if there are two. -/
theorem forall_talk_bind {P : Exchange → Prop} {backend : Backend σ} {r : Routine ε α}
    {next : α → Routine ε β} {c : Course σ} (h : ∀ x ∈ (r >>= next).talk backend c, P x) :
    (∀ x ∈ r.talk backend c, P x) ∧ ∀ a, (r.perform backend c).1 = .value a →
      ∀ x ∈ (next a).talk backend (r.perform backend c).2, P x := by
  rw [talk_bind] at h
  refine ⟨fun x mem => h x (List.mem_append_left _ mem), ?_⟩
  intro a ending x mem
  rw [ending] at h
  exact h x (List.mem_append_right _ mem)

theorem talk_mapError (backend : Backend σ) (f : ε → ε') (r : Routine ε α) (c : Course σ) :
    (r.mapError f).talk backend c = r.talk backend c := by
  refine (talk_follow backend r _ c).trans ?_
  cases (r.perform backend c).1 <;> simp [talk, pure, fail, crash]

/-- What is said is what a routine may come to. -/
theorem All.talk {P : Deed → Prop} {r : Routine ε α} (h : r.All P) (backend : Backend σ)
    (c : Course σ) : ∀ x ∈ r.talk backend c, P (.call x.call) := by
  induction r generalizing c with
  | ended =>
      intro x mem
      exact absurd mem List.not_mem_nil
  | call asked next ih =>
      intro x mem
      obtain rfl | later := List.mem_cons.mp mem
      · exact h.1
      · exact ih _ (h.2 _) _ x later
  | callWithin limit asked next ih =>
      intro x mem
      obtain rfl | later := List.mem_cons.mp mem
      · exact h.1
      · exact ih _ _ (h.2 _ _) _ x later
  | sleep millis next ih => exact ih h { c with now := c.now + millis }
  | note event next ih => exact ih h { c with log := c.log.push event }
  | deadline clock secs next ih => exact ih _ (h.2 _) c
  | release next ih => exact ih h.2 c

/-! ## Record -/

theorem call_entries (backend : Backend σ) (asked : Call) (c : Course σ) :
    (backend.call asked c).2.entries = c.entries.push
      (Exchange.entry ⟨asked, c.now, (backend.call asked c).2.now,
        (backend.call asked c).1.heard⟩) := by
  simp only [Backend.call, Exchange.entry, Exchange.isAnswered]
  cases (backend.respond c.box c.now asked).1.ending <;> rfl

theorem callWithin_entries (backend : Backend σ) (limit : Nat) (asked : Call) (c : Course σ) :
    (backend.callWithin limit asked c).2.entries = c.entries.push
      (Exchange.entry ⟨asked, c.now, (backend.callWithin limit asked c).2.now,
        (backend.callWithin limit asked c).1⟩) := by
  simp only [Backend.callWithin]
  split
  · simp only [Exchange.entry, Exchange.isAnswered]
    cases (backend.respond c.box c.now asked).1.ending <;> rfl
  · rfl

/-- **Record.** What is recorded of a routine is its conversation. -/
theorem perform_entries (backend : Backend σ) (r : Routine ε α) (c : Course σ) :
    (r.perform backend c).2.entries.toList =
      c.entries.toList ++ (r.talk backend c).map Exchange.entry := by
  induction r generalizing c with
  | ended => simp [perform, talk]
  | call asked next ih => simp [perform, talk, ih, call_entries]
  | callWithin limit asked next ih => simp [perform, talk, ih, callWithin_entries]
  | sleep millis next ih => exact ih { c with now := c.now + millis }
  | note event next ih => exact ih { c with log := c.log.push event }
  | deadline clock secs next ih => exact ih _ c
  | release next ih => exact ih c

/-! ## Order -/

theorem talk_le_began (backend : Backend σ) (r : Routine ε α) (c : Course σ) :
    ∀ x ∈ r.talk backend c, c.now ≤ x.began := by
  induction r generalizing c with
  | ended =>
      intro x mem
      exact absurd mem List.not_mem_nil
  | call asked next ih =>
      intro x mem
      obtain rfl | later := List.mem_cons.mp mem
      · exact Nat.le_refl _
      · exact Nat.le_trans (call_now_le backend asked c) (ih _ _ x later)
  | callWithin limit asked next ih =>
      intro x mem
      obtain rfl | later := List.mem_cons.mp mem
      · exact Nat.le_refl _
      · exact Nat.le_trans (callWithin_now_le backend limit asked c) (ih _ _ _ x later)
  | sleep millis next ih =>
      intro x mem
      have later := ih { c with now := c.now + millis } x mem
      exact Nat.le_trans (Nat.le_add_right _ _) later
  | note event next ih => exact ih { c with log := c.log.push event }
  | deadline clock secs next ih => exact ih _ c
  | release next ih => exact ih c

/-- **Order.** No call of a routine is made before the last one is over. -/
theorem talk_pairwise (backend : Backend σ) (r : Routine ε α) (c : Course σ) :
    (r.talk backend c).Pairwise (fun x y => x.ended ≤ y.began) := by
  induction r generalizing c with
  | ended => exact .nil
  | call asked next ih => exact .cons (talk_le_began backend _ _) (ih _ _)
  | callWithin limit asked next ih => exact .cons (talk_le_began backend _ _) (ih _ _ _)
  | sleep millis next ih => exact ih _
  | note event next ih => exact ih _
  | deadline clock secs next ih => exact ih _ _
  | release next ih => exact ih c

/-! ## Calm -/

section Calm

variable {backend : Backend σ}
  (calm : ∀ box now asked p, (backend.respond box now asked).1.ending ≠ .crash p)

include calm

theorem call_isCalm (asked : Call) (c : Course σ) (p : Crash) :
    (backend.call asked c).1.heard ≠ .crash p := by
  have quiet := calm c.box c.now asked p
  simp only [Backend.call]
  cases ending : (backend.respond c.box c.now asked).1.ending with
  | value a => simp [Ending.heard]
  | error e => simp [Ending.heard]
  | crash q => simpa [Ending.heard, ending] using quiet

theorem callWithin_isCalm (limit : Nat) (asked : Call) (c : Course σ) (p : Crash) :
    (backend.callWithin limit asked c).1 ≠ .crash p := by
  have quiet := calm c.box c.now asked p
  simp only [Backend.callWithin]
  split
  · cases ending : (backend.respond c.box c.now asked).1.ending with
    | value a => simp
    | error e => simp
    | crash q => simpa [ending] using quiet
  · simp

/-- With a sandbox that never crashes every conversation is calm. -/
theorem talk_isCalm (r : Routine ε α) (c : Course σ) : ∀ x ∈ r.talk backend c, x.IsCalm := by
  induction r generalizing c with
  | ended =>
      intro x mem
      exact absurd mem List.not_mem_nil
  | call asked next ih =>
      intro x mem
      obtain rfl | later := List.mem_cons.mp mem
      · exact call_isCalm calm asked c
      · exact ih _ _ x later
  | callWithin limit asked next ih =>
      intro x mem
      obtain rfl | later := List.mem_cons.mp mem
      · exact callWithin_isCalm calm limit asked c
      · exact ih _ _ _ x later
  | sleep millis next ih => exact ih { c with now := c.now + millis }
  | note event next ih => exact ih { c with log := c.log.push event }
  | deadline clock secs next ih => exact ih _ c
  | release next ih => exact ih c

end Calm

end Routine

end AgentTrial
