import AgentTrial.Sandbox.Step

/-!
# How steps end

* **Ends** — what a step comes to, put as what has to hold in the beginning for a statement to hold of
  its ending and of the course after it. There is one rule for each way to build a step, and all are
  for `simp`: what a step written with `do` comes to is read off its text.
* **Tame** — a step may crash in no course and change nothing of what a view shows of the sandbox. It
  is shown part by part.
-/

namespace AgentTrial.Step

/-! ## Ends -/

variable {σ ε ε' α β : Type}

/-- In a course a step ends so that `Q` holds of its ending and of the course after it. -/
def Ends (step : Step σ ε α) (c : Course σ) (Q : Ending ε α → Course σ → Prop) : Prop :=
  Q (step c).1 (step c).2

variable {c : Course σ} {Q : Ending ε α → Course σ → Prop}

@[simp] theorem ends_pure {a : α} : (Pure.pure a : Step σ ε α).Ends c Q ↔ Q (.value a) c := Iff.rfl

@[simp] theorem ends_fail {e : ε} : (fail e : Step σ ε α).Ends c Q ↔ Q (.error e) c := Iff.rfl

@[simp] theorem ends_state {Q : Ending ε σ → Course σ → Prop} :
    (state : Step σ ε σ).Ends c Q ↔ Q (.value c.box) c := Iff.rfl

@[simp] theorem ends_update {f : σ → σ} {Q : Ending ε Unit → Course σ → Prop} :
    (update f : Step σ ε Unit).Ends c Q ↔ Q (.value ()) { c with box := f c.box } := Iff.rfl

@[simp] theorem ends_log {level : Log.Level} {source : Log.Source}
    {Q : Ending ε Unit → Course σ → Prop} :
    (log level source : Step σ ε Unit).Ends c Q ↔
      Q (.value ()) { c with log := c.log.push ⟨level, source⟩ } := Iff.rfl

@[simp] theorem ends_ite {b : Prop} [Decidable b] {step other : Step σ ε α} :
    (if b then step else other).Ends c Q ↔ if b then step.Ends c Q else other.Ends c Q := by
  split <;> rfl

/-- What follows a step is told only its value. -/
@[simp] theorem ends_bind {step : Step σ ε α} {next : α → Step σ ε β}
    {Q : Ending ε β → Course σ → Prop} :
    (step >>= next).Ends c Q ↔ step.Ends c fun ending d =>
      match ending with
      | .value a => (next a).Ends d Q
      | .error e => Q (.error e) d
      | .crash p => Q (.crash p) d := by
  simp only [Ends, Bind.bind, Step.bind]
  rcases step c with ⟨a | e | p, d⟩ <;> rfl

@[simp] theorem ends_mapError {f : ε → ε'} {step : Step σ ε α}
    {Q : Ending ε' α → Course σ → Prop} :
    (step.mapError f).Ends c Q ↔ step.Ends c fun ending d =>
      match ending with
      | .value a => Q (.value a) d
      | .error e => Q (.error (f e)) d
      | .crash p => Q (.crash p) d := by
  simp only [Ends, mapError]
  rcases step c with ⟨a | e | p, d⟩ <;> rfl

@[simp] theorem ends_attempt {step : Step σ ε α} {Q : Ending Empty (Except ε α) → Course σ → Prop} :
    step.attempt.Ends c Q ↔ step.Ends c fun ending d =>
      match ending with
      | .value a => Q (.value (.ok a)) d
      | .error e => Q (.value (.error e)) d
      | .crash p => Q (.crash p) d := by
  simp only [Ends, attempt]
  rcases step c with ⟨a | e | p, d⟩ <;> rfl

@[simp] theorem ends_safely {step : Step σ Empty α} :
    (step.safely : Step σ ε α).Ends c Q ↔ step.Ends c fun ending d =>
      match ending with
      | .value a => Q (.value a) d
      | .crash p => Q (.crash p) d := by
  simp only [Ends, safely, mapError]
  rcases step c with ⟨a | e | p, d⟩
  · rfl
  · exact e.elim
  · rfl

/-! ## Tame steps -/

/-- Whatever the course, the step does not crash, and what `view` shows of the sandbox stays. -/
def Tame {τ : Type} (view : σ → τ) (step : Step σ ε α) : Prop :=
  ∀ c, step.Ends c fun ending d => (∀ p, ending ≠ .crash p) ∧ view d.box = view c.box

namespace Tame

variable {τ : Type} {view : σ → τ}

theorem pure (a : α) : (Pure.pure a : Step σ ε α).Tame view := fun _ => ⟨nofun, rfl⟩

theorem fail (e : ε) : (Step.fail e : Step σ ε α).Tame view := fun _ => ⟨nofun, rfl⟩

theorem state : (Step.state : Step σ ε σ).Tame view := fun _ => ⟨nofun, rfl⟩

theorem log (level : Log.Level) (source : Log.Source) :
    (Step.log level source : Step σ ε Unit).Tame view := fun _ => ⟨nofun, rfl⟩

theorem sleep (millis : Nat) : (Step.sleep millis : Step σ ε Unit).Tame view :=
  fun _ => ⟨nofun, rfl⟩

theorem update {f : σ → σ} (unseen : ∀ box, view (f box) = view box) :
    (Step.update f : Step σ ε Unit).Tame view := fun c => ⟨nofun, unseen c.box⟩

theorem bind {step : Step σ ε α} {next : α → Step σ ε β} (first : step.Tame view)
    (rest : ∀ a, (next a).Tame view) : (step >>= next).Tame view := by
  intro c
  rw [ends_bind]
  obtain ⟨calm, same⟩ := first c
  rw [Ends]
  cases ending : (step c).1 with
  | value a =>
      obtain ⟨calm', same'⟩ := rest a (step c).2
      exact ⟨calm', same'.trans same⟩
  | error e => exact ⟨nofun, same⟩
  | crash p => exact absurd ending (calm p)

theorem mapError {f : ε → ε'} {step : Step σ ε α} (h : step.Tame view) :
    (step.mapError f).Tame view := by
  intro c
  rw [ends_mapError]
  obtain ⟨calm, same⟩ := h c
  rw [Ends]
  cases ending : (step c).1 with
  | value a => exact ⟨nofun, same⟩
  | error e => exact ⟨nofun, same⟩
  | crash p => exact absurd ending (calm p)

theorem attempt {step : Step σ ε α} (h : step.Tame view) : step.attempt.Tame view := by
  intro c
  rw [ends_attempt]
  obtain ⟨calm, same⟩ := h c
  rw [Ends]
  cases ending : (step c).1 with
  | value a => exact ⟨nofun, same⟩
  | error e => exact ⟨nofun, same⟩
  | crash p => exact absurd ending (calm p)

theorem safely {step : Step σ Empty α} (h : step.Tame view) :
    (step.safely : Step σ ε α).Tame view := h.mapError

theorem ite {b : Prop} [Decidable b] {step other : Step σ ε α} (yes : step.Tame view)
    (no : other.Tame view) : (if b then step else other).Tame view := by
  split
  · exact yes
  · exact no

end Tame

end AgentTrial.Step
