import AgentTrial.Proofs.Routine.Conversation

/-!
# Answers

What a conversation owes to the sandbox that it is held with.

* **Hearing** — every caller hears what the sandbox replies, or it has stopped waiting before
  (`talk_answered`). So a conversation is settled by the replies and the limits.
* **Replies** — what holds of every reply in a conversation holds of what its callers hear
  (`Replied.exists_reply`).
* **Limits** — who waits no longer than a limit is back by then, and right then if it heard nothing
  (`callWithin_now_le_limit`, `callWithin_unheard`).
* **Dependence** — two sandboxes that reply alike to the calls that a routine may make are the same
  to it (`perform_congr`).
-/

namespace AgentTrial

/-- An exchange is what its caller hears of a reply: the end of it once it is over, or nothing when
the caller stops waiting before. -/
def Exchange.Hears (x : Exchange) (reply : Reply x.call.Answer) : Prop :=
  (x.ended = x.began + reply.delay ∧ x.heard = reply.ending.heard) ∨
    (x.ended < x.began + reply.delay ∧ x.heard = .value none)

/-- A reply with a value is heard as that value, or not at all. -/
theorem Exchange.Hears.ofValue {x : Exchange} {reply : Reply x.call.Answer} {a : x.call.Answer}
    (hears : x.Hears reply) (value : reply.ending = .value a) :
    (x.ended = x.began + reply.delay ∧ x.heard = .value (some a)) ∨
      (x.ended < x.began + reply.delay ∧ x.heard = .value none) := by
  rcases hears with ⟨ended, same⟩ | unheard
  · rw [value] at same
    exact .inl ⟨ended, same⟩
  · exact .inr unheard

/-- Who hears a value hears that of the reply. -/
theorem Exchange.Hears.isValue {x : Exchange} {reply : Reply x.call.Answer} (hears : x.Hears reply)
    (answered : x.isAnswered) : reply.ending.isValue := by
  unfold Exchange.isAnswered at answered
  rcases hears with ⟨-, same⟩ | ⟨-, same⟩
  · rw [same] at answered
    cases ending : reply.ending with
    | value a => rfl
    | error e => simp [ending, Ending.heard] at answered
    | crash p => simp [ending, Ending.heard] at answered
  · rw [same] at answered
    cases answered

/-- Every call of a conversation is heard as a sandbox replies to it, from a state of the sandbox
on. -/
inductive Answered {σ : Type} (backend : Backend σ) : σ → List Exchange → Prop where
  | silent {box : σ} : Answered backend box []
  | heard {box : σ} {x : Exchange} {rest : List Exchange}
      (hears : x.Hears (backend.respond box x.began x.call).1)
      (later : Answered backend (backend.respond box x.began x.call).2 rest) :
      Answered backend box (x :: rest)

theorem Answered.of_append {σ : Type} {backend : Backend σ} {box : σ} {said rest : List Exchange}
    (h : Answered backend box (said ++ rest)) : Answered backend box said := by
  induction said generalizing box with
  | nil => exact .silent
  | cons x said ih =>
      cases h with
      | heard hears later => exact .heard hears (ih later)

namespace Routine

variable {σ ε α : Type}

/-! ## Hearing -/

theorem callWithin_box (backend : Backend σ) (limit : Nat) (asked : Call) (c : Course σ) :
    (backend.callWithin limit asked c).2.box = (backend.respond c.box c.now asked).2 := by
  simp only [Backend.callWithin]
  split <;> rfl

theorem callWithin_hears (backend : Backend σ) (limit : Nat) (asked : Call) (c : Course σ) :
    Exchange.Hears ⟨asked, c.now, (backend.callWithin limit asked c).2.now,
      (backend.callWithin limit asked c).1⟩ (backend.respond c.box c.now asked).1 := by
  simp only [Backend.callWithin]
  by_cases inTime : (backend.respond c.box c.now asked).1.delay ≤ limit
  · rw [if_pos inTime]
    refine .inl ⟨rfl, ?_⟩
    cases (backend.respond c.box c.now asked).1.ending <;> rfl
  · rw [if_neg inTime]
    refine .inr ⟨?_, rfl⟩
    show c.now + limit < c.now + _
    omega

/-- **Hearing.** What is heard in a routine is what the sandbox replies. -/
theorem talk_answered (backend : Backend σ) (r : Routine ε α) (c : Course σ) :
    Answered backend c.box (r.talk backend c) := by
  induction r generalizing c with
  | ended => exact .silent
  | call asked next ih =>
      have later := ih (backend.call asked c).1 (backend.call asked c).2
      exact .heard (.inl ⟨rfl, rfl⟩) later
  | callWithin limit asked next ih =>
      have later := ih ((backend.callWithin limit asked c).2.now - c.now)
        (backend.callWithin limit asked c).1 (backend.callWithin limit asked c).2
      rw [callWithin_box] at later
      exact .heard (callWithin_hears backend limit asked c) later
  | sleep millis next ih => exact ih { c with now := c.now + millis }
  | note event next ih => exact ih { c with log := c.log.push event }
  | deadline clock secs next ih => exact ih _ c
  | release next ih => exact ih c

/-! ## Replies -/

/-- Every reply that a conversation gets, from a state of the sandbox on, has a property, which may
depend on the call and on the instant at which it is made. -/
inductive Replied (backend : Backend σ) (P : (asked : Call) → Nat → Reply asked.Answer → Prop) :
    σ → List Exchange → Prop where
  | silent {box : σ} : Replied backend P box []
  | told {box : σ} {x : Exchange} {rest : List Exchange}
      (reply : P x.call x.began (backend.respond box x.began x.call).1)
      (later : Replied backend P (backend.respond box x.began x.call).2 rest) :
      Replied backend P box (x :: rest)

section Replies

variable {backend : Backend σ} {P : (asked : Call) → Nat → Reply asked.Answer → Prop}

/-- What holds of all that a sandbox may reply holds of what it does reply. -/
theorem Replied.of_forall
    (every : ∀ box now asked, P asked now (backend.respond box now asked).1) (box : σ)
    (said : List Exchange) : Replied backend P box said := by
  induction said generalizing box with
  | nil => exact .silent
  | cons x rest ih => exact .told (every box x.began x.call) (ih _)

/-- **Replies.** Every caller hears a reply of which the property holds. -/
theorem Replied.exists_reply {box : σ} {said : List Exchange} (replied : Replied backend P box said)
    (answered : Answered backend box said) :
    ∀ x ∈ said, ∃ reply, P x.call x.began reply ∧ x.Hears reply := by
  induction replied with
  | silent =>
      intro x mem
      exact absurd mem List.not_mem_nil
  | told reply later ih =>
      cases answered with
      | heard hears rest =>
          intro y mem
          rcases List.mem_cons.mp mem with rfl | mem
          · exact ⟨_, reply, hears⟩
          · exact ih rest y mem

end Replies

/-! ## Limits -/

theorem callWithin_now_le_limit (backend : Backend σ) (limit : Nat) (asked : Call) (c : Course σ) :
    (backend.callWithin limit asked c).2.now ≤ c.now + limit := by
  simp only [Backend.callWithin]
  split
  · show c.now + _ ≤ _
    omega
  · exact Nat.le_refl _

theorem callWithin_unheard (backend : Backend σ) (limit : Nat) (asked : Call) (c : Course σ) :
    (backend.callWithin limit asked c).1 = .value none →
      (backend.callWithin limit asked c).2.now = c.now + limit := by
  intro h
  simp only [Backend.callWithin] at h ⊢
  split at h
  · -- a reply that is in time is heard
    cases ending : (backend.respond c.box c.now asked).1.ending <;> simp [ending] at h
  · rename_i late
    rw [if_neg late]

/-! ## Dependence -/

/-- **Dependence.** A routine takes the same course with two sandboxes that reply alike to all that
it may ask. -/
theorem perform_congr {P : Deed → Prop} {backend other : Backend σ}
    (same : ∀ asked, P (.call asked) → ∀ box now,
      other.respond box now asked = backend.respond box now asked)
    {r : Routine ε α} (h : r.All P) (c : Course σ) :
    r.perform other c = r.perform backend c := by
  induction r generalizing c with
  | ended => rfl
  | call asked next ih =>
      have alike : other.call asked = backend.call asked := by
        funext c
        simp only [Backend.call, same asked h.1]
      simp only [perform, alike]
      exact ih _ (h.2 _) _
  | callWithin limit asked next ih =>
      have alike : other.callWithin limit asked = backend.callWithin limit asked := by
        funext c
        simp only [Backend.callWithin, same asked h.1]
      simp only [perform, alike]
      exact ih _ _ (h.2 _ _) _
  | sleep millis next ih => exact ih h { c with now := c.now + millis }
  | note event next ih => exact ih h { c with log := c.log.push event }
  | deadline clock secs next ih => exact ih _ (h.2 _) c
  | release next ih => exact ih h.2 c

end Routine

end AgentTrial
