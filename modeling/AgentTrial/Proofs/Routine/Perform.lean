import AgentTrial.Sandbox.Routine

/-!
# Performing routines

What holds of every routine, whatever sandbox it is performed with.

* **Sequencing** — performing `r.follow next` is performing `r` and then what `next` makes of its
  ending (`perform_follow`); `bind` and the ways to treat errors are instances.
* **Deeds** — `All` says that everything a routine may come to has a property; it is kept by
  `follow` (`All.follow`), so it is shown part by part.
* **Time** — performing takes no time back (`perform_now_le`).
* **Errors** — what holds of every error that a routine may end with (`FailsWith`) is shown part by
  part too.
-/

namespace AgentTrial

/-- The calls that have been made. -/
def Course.calls {σ : Type} (c : Course σ) : List Call := c.entries.toList.map (·.call)

theorem Backend.calls_call {σ : Type} (backend : Backend σ) (asked : Call) (c : Course σ) :
    (backend.call asked c).2.calls = c.calls ++ [asked] := by
  simp [Backend.call, Course.calls]

theorem Backend.calls_callWithin {σ : Type} (backend : Backend σ) (limit : Nat) (asked : Call)
    (c : Course σ) : (backend.callWithin limit asked c).2.calls = c.calls ++ [asked] := by
  simp only [Backend.callWithin]
  split <;> simp [Course.calls]

namespace Routine

variable {σ ε ε' α β : Type}

/-! ## Sequencing -/

theorem follow_assoc {γ ε'' : Type} (r : Routine ε α) (next : Ending ε α → Routine ε' β)
    (last : Ending ε' β → Routine ε'' γ) :
    (r.follow next).follow last = r.follow fun ending => (next ending).follow last := by
  induction r with
  | ended => rfl
  | call asked rest ih => simp only [follow, ih]
  | callWithin limit asked rest ih => simp only [follow, ih]
  | sleep millis rest ih => simp only [follow, ih]
  | note event rest ih => simp only [follow, ih]
  | deadline clock secs rest ih => simp only [follow, ih]
  | release rest ih => simp only [follow, ih]

theorem bind_assoc {γ : Type} (r : Routine ε α) (next : α → Routine ε β)
    (last : β → Routine ε γ) : (r >>= next) >>= last = r >>= fun a => next a >>= last := by
  refine (r.follow_assoc _ _).trans (congrArg r.follow (funext fun ending => ?_))
  cases ending <;> rfl

/-- What follows a settled routine follows every ending of it. -/
theorem settle_bind (r : Routine ε α) (next : Ending ε α → Routine Empty β) :
    r.settle >>= next = r.follow next :=
  r.follow_assoc pure _

theorem perform_follow (backend : Backend σ) (r : Routine ε α)
    (next : Ending ε α → Routine ε' β) (c : Course σ) :
    (r.follow next).perform backend c =
      (next (r.perform backend c).1).perform backend (r.perform backend c).2 := by
  induction r generalizing c with
  | ended => rfl
  | call asked rest ih => exact ih _ _
  | callWithin limit asked rest ih => exact ih _ _ _
  | sleep millis rest ih => exact ih _
  | note event rest ih => exact ih _
  | deadline clock secs rest ih => exact ih _ _
  | release rest ih => exact ih c

theorem perform_bind (backend : Backend σ) (r : Routine ε α) (next : α → Routine ε β)
    (c : Course σ) :
    (r >>= next).perform backend c =
      match (r.perform backend c).1 with
      | .value a => (next a).perform backend (r.perform backend c).2
      | .error e => (.error e, (r.perform backend c).2)
      | .crash p => (.crash p, (r.perform backend c).2) := by
  refine (perform_follow backend r _ c).trans ?_
  cases (r.perform backend c).1 <;> rfl

theorem perform_mapError (backend : Backend σ) (f : ε → ε') (r : Routine ε α) (c : Course σ) :
    (r.mapError f).perform backend c =
      (match (r.perform backend c).1 with
        | .value a => .value a
        | .error e => .error (f e)
        | .crash p => .crash p,
        (r.perform backend c).2) := by
  refine (perform_follow backend r _ c).trans ?_
  cases (r.perform backend c).1 <;> rfl

/-! ## Deeds -/

/-- What a routine may come to, the passing of time and the log apart. -/
inductive Deed where
  | call (call : Call)
  | deadline (clock : Clock) (secs : Nat)
  | release

/-- Everything that a routine may come to, whatever it is answered, has a property. -/
def All (P : Deed → Prop) : Routine ε α → Prop
  | .ended _ => True
  | .call asked next => P (.call asked) ∧ ∀ ending, (next ending).All P
  | .callWithin _ asked next => P (.call asked) ∧ ∀ elapsed ending, (next elapsed ending).All P
  | .sleep _ next => next.All P
  | .note _ next => next.All P
  | .deadline clock secs next => P (.deadline clock secs) ∧ ∀ told, (next told).All P
  | .release next => P .release ∧ next.All P

theorem All.follow {P : Deed → Prop} {r : Routine ε α} {next : Ending ε α → Routine ε' β}
    (first : r.All P) (rest : ∀ ending, (next ending).All P) : (r.follow next).All P := by
  induction r with
  | ended ending => exact rest ending
  | call asked next ih => exact ⟨first.1, fun ending => ih ending (first.2 ending)⟩
  | callWithin limit asked next ih =>
      exact ⟨first.1, fun elapsed ending => ih elapsed ending (first.2 elapsed ending)⟩
  | sleep millis next ih => exact ih first
  | note event next ih => exact ih first
  | deadline clock secs next ih => exact ⟨first.1, fun told => ih told (first.2 told)⟩
  | release next ih => exact ⟨first.1, ih first.2⟩

variable {P : Deed → Prop}

theorem All.mono {Q : Deed → Prop} {r : Routine ε α} (h : r.All P) (weaker : ∀ d, P d → Q d) :
    r.All Q := by
  induction r with
  | ended => trivial
  | call asked next ih => exact ⟨weaker _ h.1, fun ending => ih ending (h.2 ending)⟩
  | callWithin limit asked next ih =>
      exact ⟨weaker _ h.1, fun elapsed ending => ih elapsed ending (h.2 elapsed ending)⟩
  | sleep millis next ih => exact ih h
  | note event next ih => exact ih h
  | deadline clock secs next ih => exact ⟨weaker _ h.1, fun told => ih told (h.2 told)⟩
  | release next ih => exact ⟨weaker _ h.1, ih h.2⟩

theorem All.bind {r : Routine ε α} {next : α → Routine ε β} (first : r.All P)
    (rest : ∀ a, (next a).All P) : (r >>= next).All P := by
  refine All.follow first fun ending => ?_
  cases ending with
  | value a => exact rest a
  | error e => trivial
  | crash p => trivial

theorem All.mapError {r : Routine ε α} (f : ε → ε') (h : r.All P) : (r.mapError f).All P := by
  refine All.follow h fun ending => ?_
  cases ending <;> trivial

theorem All.attempt {r : Routine ε α} (h : r.All P) : r.attempt.All P := by
  refine All.follow h fun ending => ?_
  cases ending <;> trivial

theorem All.settle {r : Routine ε α} (h : r.All P) : r.settle.All P :=
  All.follow h fun _ => trivial

theorem All.ask {asked : Call} (h : P (.call asked)) : (Routine.ask asked).All P :=
  ⟨h, fun _ => trivial⟩

theorem All.request {asked : Call} (h : P (.call asked)) :
    (Routine.request asked : Routine ε _).All P := by
  refine ⟨h, fun ending => ?_⟩
  cases ending <;> trivial

theorem All.log (level : Log.Level) (source : Log.Source) :
    (Routine.log level source : Routine ε Unit).All P := trivial

theorem All.logIf (reason : Bool) (level : Log.Level) (source : Log.Source) :
    (Routine.logIf reason level source : Routine ε Unit).All P := by
  cases reason <;> trivial

theorem All.pure (a : α) : (Pure.pure a : Routine ε α).All P := trivial

theorem All.fail (e : ε) : (Routine.fail e : Routine ε α).All P := trivial

/-! ## Time -/

theorem call_now_le (backend : Backend σ) (asked : Call) (c : Course σ) :
    c.now ≤ (backend.call asked c).2.now := by
  simp [Backend.call]

theorem callWithin_now_le (backend : Backend σ) (limit : Nat) (asked : Call) (c : Course σ) :
    c.now ≤ (backend.callWithin limit asked c).2.now := by
  simp only [Backend.callWithin]
  split <;> simp

theorem perform_now_le (backend : Backend σ) (r : Routine ε α) (c : Course σ) :
    c.now ≤ (r.perform backend c).2.now := by
  induction r generalizing c with
  | ended => exact Nat.le_refl _
  | call asked rest ih => exact Nat.le_trans (call_now_le backend asked c) (ih _ _)
  | callWithin limit asked rest ih =>
      exact Nat.le_trans (callWithin_now_le backend limit asked c) (ih _ _ _)
  | sleep millis rest ih =>
      exact Nat.le_trans (Nat.le_add_right _ _) (ih { c with now := c.now + millis })
  | note event rest ih => exact ih { c with log := c.log.push event }
  | deadline clock secs rest ih => exact ih _ _
  | release rest ih => exact ih c

/-! ## Errors -/

/-- Every error that a routine ends with has a property. -/
def FailsWith (P : ε → Prop) (r : Routine ε α) : Prop :=
  ∀ (σ : Type) (backend : Backend σ) (c : Course σ) e, (r.perform backend c).1 = .error e → P e

namespace FailsWith

variable {P : ε → Prop}

theorem pure (a : α) : (Pure.pure a : Routine ε α).FailsWith P := by
  intro σ backend c e ending
  cases ending

theorem fail {e : ε} (h : P e) : (Routine.fail e : Routine ε α).FailsWith P := by
  intro σ backend c e' ending
  cases ending
  exact h

theorem log (level : Log.Level) (source : Log.Source) :
    (Routine.log level source : Routine ε Unit).FailsWith P := by
  intro σ backend c e ending
  cases ending

theorem logIf (reason : Bool) (level : Log.Level) (source : Log.Source) :
    (Routine.logIf reason level source : Routine ε Unit).FailsWith P := by
  cases reason with
  | false => exact pure ()
  | true => exact log level source

/-- What follows has to be looked at only for the values that there are. -/
theorem bind_of_value {r : Routine ε α} {next : α → Routine ε β} (first : r.FailsWith P)
    (later : ∀ (σ : Type) (backend : Backend σ) (c : Course σ) a,
      (r.perform backend c).1 = .value a → (next a).FailsWith P) : (r >>= next).FailsWith P := by
  intro σ backend c e ending
  rw [perform_bind] at ending
  cases here : (r.perform backend c).1 with
  | value a =>
      rw [here] at ending
      exact later σ backend c a here σ backend _ e ending
  | error e' =>
      rw [here] at ending
      cases ending
      exact first σ backend c e here
  | crash p =>
      rw [here] at ending
      cases ending

theorem bind {r : Routine ε α} {next : α → Routine ε β} (first : r.FailsWith P)
    (later : ∀ a, (next a).FailsWith P) : (r >>= next).FailsWith P :=
  first.bind_of_value fun _ _ _ a _ => later a

theorem mapError {P : ε' → Prop} {r : Routine ε α} (f : ε → ε')
    (h : r.FailsWith fun e => P (f e)) : (r.mapError f).FailsWith P := by
  intro σ backend c e ending
  rw [perform_mapError] at ending
  cases here : (r.perform backend c).1 with
  | value a =>
      rw [here] at ending
      cases ending
  | error e' =>
      rw [here] at ending
      cases ending
      exact h σ backend c e' here
  | crash p =>
      rw [here] at ending
      cases ending

/-- What ends in no error of its own ends in none elsewhere. -/
theorem safely (r : Routine Empty α) : (r.safely : Routine ε α).FailsWith P :=
  mapError _ fun _ _ _ e => e.elim

end FailsWith

end Routine

end AgentTrial
