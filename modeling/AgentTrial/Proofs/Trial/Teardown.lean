import AgentTrial.Proofs.Routine.Suspension
import AgentTrial.Proofs.Trial.Deeds

/-!
# Teardown

A sandbox is stopped by one of two parties: by its trial, which releases the guard first, or by the
guard, when it is dropped before. The flag of the guard decides between them.

* **Shape** — a trial in a sandbox is `Guarded`: no stop before the release, then the stop at once
  and no call after it (`inside_guarded`).
* **Flag** — at every wait of a trial the flag is `Faithful`: unset while there was no stop, set
  from the stop on (`Suspended.Sound`, kept by `Sound.resume`).
* **End** — so a trial that ends has torn its sandbox down (`Routine.Guarded.perform`), and one that
  is dropped has it torn down by its guard (`Guard.Faithful.dropping`).
-/

namespace AgentTrial

/-- The calls on a sandbox that is done with: one stop, which is the last of them. A sandbox that is
to be kept has none. -/
def TornDown (keep : Bool) (calls : List Call) : Prop :=
  if keep then .stop ∉ calls else ∃ before, calls = before ++ [.stop] ∧ .stop ∉ before

theorem tornDown_kept {calls : List Call} (h : .stop ∉ calls) : TornDown true calls := h

theorem tornDown_stopped {calls : List Call} (h : .stop ∉ calls) :
    TornDown false (calls ++ [.stop]) := ⟨calls, rfl, h⟩

/-- What is left of the calls on such a sandbox has no stop or is such itself. -/
theorem TornDown.sublist {keep : Bool} {calls kept : List Call} (h : TornDown keep calls)
    (sub : kept.Sublist calls) : TornDown keep kept ∨ .stop ∉ kept := by
  cases keep with
  | true => exact .inr fun mem => h (sub.mem mem)
  | false =>
      obtain ⟨before, rfl, clean⟩ := h
      obtain ⟨front, back, rfl, left, right⟩ := List.sublist_append_iff.mp sub
      -- the stop was the last call, so it is kept with all that came before, or it is lost
      have none : .stop ∉ front := fun mem => clean (left.mem mem)
      cases right with
      | cons _ rest =>
          rw [List.eq_nil_of_sublist_nil rest, List.append_nil]
          exact .inr none
      | cons_cons _ rest =>
          rw [List.eq_nil_of_sublist_nil rest]
          exact .inl (tornDown_stopped none)

/-- What the flag of a guard tells of the calls on its sandbox. -/
def Guard.Faithful (keep released : Bool) (calls : List Call) : Prop :=
  if released then TornDown keep calls else .stop ∉ calls

namespace Routine

variable {σ ε ε' α β : Type}

/-- A routine that comes to nothing any more. -/
def Silent (r : Routine ε α) : Prop := r.All fun _ => False

/-- A routine whose guard has just been released: it stops the sandbox, unless it is to be kept, and
then comes to nothing any more. -/
def Released (keep : Bool) (r : Routine ε α) : Prop :=
  if keep then r.Silent
  else ∃ next, r = .call .stop next ∧ ∀ ending, (next ending).Silent

/-- A routine that makes no stop before it releases the guard, as it does before it ends. -/
def Guarded (keep : Bool) : Routine ε α → Prop
  | .ended _ => False
  | .call asked next => asked ≠ .stop ∧ ∀ ending, (next ending).Guarded keep
  | .callWithin _ asked next =>
    asked ≠ .stop ∧ ∀ elapsed ending, (next elapsed ending).Guarded keep
  | .sleep _ next => next.Guarded keep
  | .note _ next => next.Guarded keep
  | .deadline _ _ next => ∀ told, (next told).Guarded keep
  | .release next => next.Released keep

variable {keep : Bool} {clock : Clock} {testSecs : Nat}

/-- What neither stops nor releases may come before. -/
theorem Guarded.follow {r : Routine ε α} {next : Ending ε α → Routine ε' β}
    (first : r.All (Deed.Permitted clock testSecs)) (rest : ∀ ending, (next ending).Guarded keep) :
    (r.follow next).Guarded keep := by
  induction r with
  | ended ending => exact rest ending
  | call asked next ih => exact ⟨first.1, fun ending => ih ending (first.2 ending)⟩
  | callWithin limit asked next ih =>
      exact ⟨first.1, fun elapsed ending => ih elapsed ending (first.2 elapsed ending)⟩
  | sleep millis next ih => exact ih first
  | note event next ih => exact ih first
  | deadline clock secs next ih => exact fun told => ih told (first.2 told)
  | release next ih => exact first.1.elim

end Routine

/-- Releasing a guard, with nothing after it. -/
theorem Guard.releasing_guarded {α : Type} (keep : Bool) (a : α) :
    (Guard.releasing keep >>= fun _ => (pure a : Routine Empty α)).Guarded keep := by
  cases keep with
  | true => trivial
  | false =>
      refine ⟨_, rfl, fun ending => ?_⟩
      cases ending <;> trivial

/-- **Shape of a trial.** Whatever becomes of the pipeline, a trial in a sandbox goes on to release
its guard, and there was no stop before. -/
theorem Trial.inside_guarded (trial : Trial) (takesDirs : Bool) (taskName : String) (task : Task) :
    (trial.inside takesDirs taskName task).Guarded trial.config.keepSandbox := by
  rw [inside, Routine.settle_bind]
  refine Routine.Guarded.follow (trial.pipeline_permitted takesDirs taskName task) fun ending => ?_
  exact Guard.releasing_guarded _ (outcomeOf ending)

/-! ## The flag of the guard -/

/-- Where the teardown stands at a wait: before the release there was no stop, after it there is
nothing more to come. -/
structure Suspended.Sound {σ ε α : Type} (keep : Bool) (s : Suspended σ ε α) : Prop where
  faithful : Guard.Faithful keep s.released s.course.calls
  rest : if s.released then s.rest.Silent else s.rest.Guarded keep

namespace Routine

variable {σ ε α : Type} {keep : Bool}

/-- Nothing more happens on the sandbox once the teardown is over. -/
theorem Silent.advance (backend : Backend σ) {r : Routine ε α} (h : r.Silent) (c : Course σ) :
    (r.advance backend true c).released = true ∧
      (r.advance backend true c).rest.Silent ∧
      (r.advance backend true c).course.calls = c.calls := by
  induction r generalizing c with
  | ended => exact ⟨rfl, trivial, rfl⟩
  | call asked next ih => exact h.1.elim
  | callWithin limit asked next ih => exact h.1.elim
  | sleep millis next ih => exact ⟨rfl, h, rfl⟩
  | note event next ih => exact ih h { c with log := c.log.push event }
  | deadline clock secs next ih => exact h.1.elim
  | release next ih => exact h.1.elim

theorem Silent.sound (backend : Backend σ) {r : Routine ε α} (h : r.Silent) {c : Course σ}
    (down : TornDown keep c.calls) : (r.advance backend true c).Sound keep := by
  obtain ⟨released, rest, same⟩ := h.advance backend c
  refine ⟨?_, ?_⟩
  · rw [released, same]
    exact down
  · rw [released]
    exact rest

/-- The piece that begins with the release of the guard makes the stop. -/
theorem Released.sound (backend : Backend σ) {r : Routine ε α} (h : r.Released keep) {c : Course σ}
    (clean : .stop ∉ c.calls) : (r.advance backend true c).Sound keep := by
  cases keep with
  | true => exact Silent.sound backend h clean
  | false =>
      obtain ⟨next, rfl, silent⟩ := h
      refine ⟨?_, silent _⟩
      show TornDown false (backend.call .stop c).2.calls
      rw [backend.calls_call]
      exact tornDown_stopped clean

/-- A piece of a trial before the release. -/
theorem Guarded.sound (backend : Backend σ) {r : Routine ε α} (h : r.Guarded keep) {c : Course σ}
    (clean : .stop ∉ c.calls) : (r.advance backend false c).Sound keep := by
  induction r generalizing c with
  | ended ending => exact h.elim
  | call asked next ih =>
      refine ⟨?_, h.2 _⟩
      show .stop ∉ (backend.call asked c).2.calls
      rw [backend.calls_call]
      simpa [h.1.symm] using clean
  | callWithin limit asked next ih =>
      refine ⟨?_, h.2 _ _⟩
      show .stop ∉ (backend.callWithin limit asked c).2.calls
      rw [backend.calls_callWithin]
      simpa [h.1.symm] using clean
  | sleep millis next ih => exact ⟨clean, h⟩
  | note event next ih => exact ih h clean
  | deadline clock secs next ih => exact ih _ (h _) clean
  | release next ih => exact Released.sound backend h clean

end Routine

namespace Suspended

variable {σ ε α : Type} {keep : Bool}

/-- **Step.** What the flag tells stays true from wait to wait. -/
theorem Sound.resume (backend : Backend σ) {s : Suspended σ ε α} (h : s.Sound keep) :
    (s.resume backend).Sound keep := by
  obtain ⟨rest, released, c⟩ := s
  cases released with
  | false => exact Routine.Guarded.sound backend h.rest h.faithful
  | true => exact Routine.Silent.sound backend h.rest h.faithful

/-- A trial that has ended has torn its sandbox down. -/
theorem Sound.tornDown {s : Suspended σ ε α} {ending : Ending ε α} (h : s.Sound keep)
    (ended : s.rest = .ended ending) : TornDown keep s.course.calls := by
  obtain ⟨rest, released, c⟩ := s
  obtain rfl : rest = .ended ending := ended
  cases released with
  | false => exact h.rest.elim
  | true => exact h.faithful

end Suspended

/-- **End.** A guarded routine that is performed tears the sandbox down, however the calls on it
end. -/
theorem Routine.Guarded.perform {σ ε α : Type} {keep : Bool} (backend : Backend σ)
    {r : Routine ε α} (h : r.Guarded keep) {c : Course σ} (clean : .stop ∉ c.calls) :
    TornDown keep (r.perform backend c).2.calls := by
  obtain ⟨t, sound, ended, last⟩ := Suspended.finish_invariant backend (Suspended.Sound keep)
    (fun _ => Suspended.Sound.resume backend) (h.sound backend clean)
  rw [← r.finish_advance backend false c, ← last]
  exact sound.tornDown ended

/-- Nothing is recorded of what comes to nothing. -/
theorem Routine.Silent.perform {σ ε α : Type} (backend : Backend σ) {r : Routine ε α}
    (h : r.Silent) (c : Course σ) : (r.perform backend c).2.entries = c.entries := by
  induction r generalizing c with
  | ended => rfl
  | call asked next ih => exact h.1.elim
  | callWithin limit asked next ih => exact h.1.elim
  | sleep millis next ih => exact ih h { c with now := c.now + millis }
  | note event next ih => exact ih h { c with log := c.log.push event }
  | deadline clock secs next ih => exact h.1.elim
  | release next ih => exact h.1.elim

/-- What a dropped guard adds to the calls: one stop, made at once, if it owes one. -/
theorem Guard.dropping_entries {σ : Type} (backend : Backend σ) (released keep : Bool)
    (c : Course σ) :
    if Guard.owesStop released keep then
      ∃ e : Entry, e.call = .stop ∧ e.began = c.now ∧
        ((Guard.dropping released keep).perform backend c).2.entries = c.entries.push e
    else ((Guard.dropping released keep).perform backend c).2.entries = c.entries := by
  cases released with
  | true => rfl
  | false =>
      cases keep with
      | true => rfl
      | false =>
          obtain ⟨next, eq, silent⟩ : ∃ next : _ → Routine Empty Unit,
              Guard.dropping false false = .note ⟨.warn, .sandbox⟩ (.call .stop next) ∧
                ∀ ending, (next ending).Silent :=
            ⟨_, rfl, fun ending => by cases ending <;> trivial⟩
          -- the log comes first, and it changes no entry
          let d := backend.call .stop { c with log := c.log.push ⟨.warn, .sandbox⟩ }
          refine ⟨⟨.stop, c.now, d.2.now, d.1.isValue⟩, rfl, rfl, ?_⟩
          rw [eq]
          exact (silent d.1).perform backend d.2

/-- A guard that is dropped makes the stop that is missing. -/
theorem Guard.Faithful.dropping {σ : Type} (backend : Backend σ) {keep released : Bool}
    {c : Course σ} (h : Guard.Faithful keep released c.calls) :
    TornDown keep ((Guard.dropping released keep).perform backend c).2.calls := by
  have added := Guard.dropping_entries backend released keep c
  cases released with
  | true => exact h
  | false =>
      cases keep with
      | true => exact h
      | false =>
          obtain ⟨e, stop, -, more⟩ := added
          have once : ((Guard.dropping false false).perform backend c).2.calls =
              c.calls ++ [.stop] := by
            simp [Course.calls, more, stop]
          rw [once]
          exact tornDown_stopped h

/-! ## Whole trials -/

namespace Timeline

/-- The calls of a trial in their order. -/
def calls (t : Timeline) : List Call := t.entries.map (·.call)

theorem isStop_iff (e : Entry) : isStop e = true ↔ e.call = .stop := by
  rw [isStop]
  split <;> simp_all

/-- What is left of the calls up to an instant, in-flight ones cut. -/
theorem calls_upTo (entries : List Entry) (instant : Nat) :
    ((entries.filter (·.began ≤ instant)).map (cutEntry instant)).map (·.call) =
      (entries.filter (·.began ≤ instant)).map (·.call) := by
  rw [List.map_map]
  refine List.map_congr_left fun e _ => ?_
  simp only [Function.comp, cutEntry]
  split <;> rfl

theorem any_isStop_upTo (entries : List Entry) (instant : Nat) :
    ((entries.filter (·.began ≤ instant)).map (cutEntry instant)).any isStop =
      decide (Call.stop ∈ (entries.filter (·.began ≤ instant)).map (·.call)) := by
  rw [Bool.eq_iff_iff, decide_eq_true_iff, ← calls_upTo, List.any_eq_true, List.mem_map]
  simp only [isStop_iff]

/-- **Drops.** Whenever a trial in a sandbox is dropped, what it has done of its calls and what its
guard adds tear the sandbox down. -/
theorem cutAt_tornDown {t : Timeline} {keep : Bool} (h : TornDown keep t.calls)
    (boxed : t.sandboxId.isSome) (instant : Nat) :
    TornDown keep ((t.cutAt keep instant).map (·.call)) := by
  have part : TornDown keep _ ∨ _ :=
    h.sublist ((t.entries.filter_sublist (p := (·.began ≤ instant))).map (·.call))
  have unboxed : ¬ t.sandboxId.isNone := by
    simpa [Option.isSome_iff_ne_none] using boxed
  rw [cutAt]
  split
  · exact h
  · simp only [any_isStop_upTo, decide_eq_true_iff]
    split
    · -- the guard adds nothing: there was no sandbox, it is kept, or the stop was made
      rename_i done
      rw [calls_upTo]
      obtain none | kept | stopped := done
      · exact absurd none unboxed
      · subst kept
        exact part.elim id tornDown_kept
      · exact part.resolve_right fun clean => clean stopped
    · -- the guard adds the stop that is missing
      rename_i due
      obtain ⟨-, kept, clean⟩ := not_or.mp due |>.imp_right not_or.mp
      obtain rfl : keep = false := by simpa using kept
      rw [List.map_append, calls_upTo]
      exact tornDown_stopped clean

end Timeline

/-- A result that has a value is no error. -/
theorem eq_ok_of_toOption {ε α : Type} {result : Except ε α} {a : α}
    (h : result.toOption = some a) : result = .ok a := by
  cases result with
  | error e => cases h
  | ok _ => exact congrArg Except.ok (Option.some.inj h)

namespace Trial

variable {σ : Type} (trial : Trial) (make : Maker σ) (dir : String)

theorem run_early {timeline : Timeline} (h : trial.begin make dir = .early timeline) :
    trial.run make dir = timeline := by
  unfold run runWith
  simp only [h]

theorem run_inSandbox {made : Made σ} {task : Task}
    (h : trial.begin make dir = .inSandbox made task) :
    trial.run make dir =
      let r := (trial.inside made.backend.takesDirs (taskNameOf dir) task).perform made.backend
        (made.course 0)
      .ofCourse (taskNameOf dir) made.backend.id r.1 r.2 := by
  unfold run runWith
  simp only [h]

/-- A trial depends on the sandbox that is made for its own task only. -/
theorem run_congr {make' : Maker σ} (same : make (taskNameOf dir) = make' (taskNameOf dir)) :
    trial.run make dir = trial.run make' dir := by
  have begun : trial.begin make dir = trial.begin make' dir := by
    unfold begin
    dsimp only
    rw [same]
  unfold run runWith
  rw [begun]

/-- A trial that is over before there is a sandbox makes no calls. -/
theorem begin_early {timeline : Timeline} (h : trial.begin make dir = .early timeline) :
    timeline.sandboxId = none ∧ timeline.entries = [] ∧ timeline.length = 0 := by
  unfold begin at h
  dsimp only at h
  split at h
  · cases h
    exact ⟨rfl, rfl, rfl⟩
  · split at h
    · cases h
      exact ⟨rfl, rfl, rfl⟩
    · cases h
      exact ⟨rfl, rfl, rfl⟩
    · cases h

/-- **Teardown of a trial.** Whatever the calls on its sandbox come to, a trial that gets a sandbox
tears it down. -/
theorem run_tornDown (boxed : (trial.run make dir).sandboxId.isSome) :
    TornDown trial.config.keepSandbox (trial.run make dir).calls := by
  cases h : trial.begin make dir with
  | early timeline =>
      rw [trial.run_early make dir h, (trial.begin_early make dir h).1] at boxed
      exact absurd boxed (by simp)
  | inSandbox made task =>
      rw [trial.run_inSandbox make dir h]
      exact (trial.inside_guarded _ _ task).perform made.backend (by simp [Course.calls, Made.course])

/-- A trial that gets no sandbox makes no calls. -/
theorem run_calls_eq_nil (boxless : ¬ (trial.run make dir).sandboxId.isSome) :
    (trial.run make dir).calls = [] := by
  cases h : trial.begin make dir with
  | early timeline =>
      rw [trial.run_early make dir h, Timeline.calls, (trial.begin_early make dir h).2.1]
      rfl
  | inSandbox made task =>
      rw [trial.run_inSandbox make dir h] at boxless
      exact absurd rfl boxless

theorem run_began_le : ∀ e ∈ (trial.run make dir).entries,
    e.began ≤ (trial.run make dir).length := by
  cases h : trial.begin make dir with
  | early timeline =>
      rw [trial.run_early make dir h, (trial.begin_early make dir h).2.1]
      exact fun e mem => absurd mem (List.not_mem_nil)
  | inSandbox made task =>
      rw [trial.run_inSandbox make dir h]
      have past := (trial.inside made.backend.takesDirs (taskNameOf dir) task).perform_isPast
        made.backend (c := made.course 0) (by simp [Course.IsPast, Made.course])
      exact fun e mem => past e (Array.mem_toList_iff.mp mem)

end Trial

end AgentTrial
