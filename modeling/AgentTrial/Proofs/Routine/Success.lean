import AgentTrial.Proofs.Routine.Conversation

/-!
# Success

What a routine does when all goes well, and how far it goes when something fails.

* **Sandboxes** — a sandbox may answer success to every call (`Backend.Succeeds`), whatever the
  answers are otherwise and however long they take.
* **Routines** — a routine does some calls if with every such sandbox it makes these and ends with a
  value (`Routine.Does`). It is shown part by part.
* **Failure** — calls that have to succeed are made one after the other up to the last, or up to the
  first that fails (`Attempts`). It is shown part by part, crashes included (`Routine.Proceeds`).
* **Traces** — a routine that goes on to the end has had certain exchanges on the way (`Leaves`); for
  that one of its parts is enough.
-/

namespace AgentTrial

/-- Whether an answer says that what was asked has been done. -/
def Call.Succeeds : (asked : Call) → asked.Answer → Prop
  | .start, _ | .stop, _ | .session .., _ => True
  | .run .., out => out.isSuccess = true
  | .probe .., code => code = (0 : Int)
  | .uploadFile .., accepted => accepted = true
  | .uploadDir .., code => code = (0 : Int)

/-- A sandbox that answers success to everything. -/
def Backend.Succeeds {σ : Type} (backend : Backend σ) : Prop :=
  ∀ box now asked, ∃ a, (backend.respond box now asked).1.ending = .value a ∧ asked.Succeeds a

/-- The answer that says so and nothing more. -/
def Call.success : (asked : Call) → asked.Answer
  | .start | .stop | .session .. => ()
  | .run .. => {}
  | .probe .. | .uploadDir .. => (0 : Int)
  | .uploadFile .. => true

/-- The sandbox that answers success to everything at once. -/
def Backend.obliging (takesDirs : Bool) : Backend Unit where
  id := "box"
  takesDirs := takesDirs
  respond _ _ asked := ({ ending := .value asked.success }, ())

theorem Backend.obliging_succeeds (takesDirs : Bool) : (obliging takesDirs).Succeeds := by
  intro box now asked
  refine ⟨asked.success, rfl, ?_⟩
  cases asked <;> trivial

namespace Routine

variable {ε ε' α β : Type}

/-- With every sandbox that answers success to everything, the routine makes the calls and ends with a
value of which `post` holds. -/
def Does (calls : List Call) (post : α → Prop) (r : Routine ε α) : Prop :=
  ∀ (σ : Type) (backend : Backend σ), backend.Succeeds → ∀ c,
    (r.talk backend c).map (·.call) = calls ∧ ∃ a, (r.perform backend c).1 = .value a ∧ post a

namespace Does

variable {calls calls' : List Call} {post : α → Prop} {post' : β → Prop}

theorem pure {a : α} (h : post a) : Does [] post (Pure.pure a : Routine ε α) :=
  fun _ _ _ _ => ⟨rfl, a, rfl, h⟩

theorem log (level : Log.Level) (source : Log.Source) :
    Does [] (fun _ => True) (Routine.log level source : Routine ε Unit) :=
  fun _ _ _ _ => ⟨rfl, (), rfl, trivial⟩

theorem logIf (reason : Bool) (level : Log.Level) (source : Log.Source) :
    Does [] (fun _ => True) (Routine.logIf reason level source : Routine ε Unit) := by
  cases reason <;> exact fun _ _ _ _ => ⟨rfl, (), rfl, trivial⟩

theorem bind {r : Routine ε α} {next : α → Routine ε β} (first : r.Does calls post)
    (later : ∀ a, post a → (next a).Does calls' post') :
    (r >>= next).Does (calls ++ calls') post' := by
  intro σ backend succeeds c
  obtain ⟨made, a, ending, holds⟩ := first σ backend succeeds c
  obtain ⟨made', b, ending', holds'⟩ := later a holds σ backend succeeds (r.perform backend c).2
  rw [talk_bind, perform_bind, ending]
  exact ⟨by rw [List.map_append, made, made'], b, ending', holds'⟩

theorem mapError {r : Routine ε α} (f : ε → ε') (h : r.Does calls post) :
    (r.mapError f).Does calls post := by
  intro σ backend succeeds c
  obtain ⟨made, a, ending, holds⟩ := h σ backend succeeds c
  rw [talk_mapError, perform_mapError, ending]
  exact ⟨made, a, rfl, holds⟩

theorem ask (asked : Call) : (Routine.ask asked).Does [asked] asked.Succeeds := by
  intro σ backend succeeds c
  obtain ⟨a, ending, holds⟩ := succeeds c.box c.now asked
  exact ⟨rfl, a, ending, holds⟩

end Does

end Routine

/-! ## Failure -/

/-- A call is answered, and the answer says that what was asked has been done. -/
def Exchange.Succeeded (x : Exchange) : Prop :=
  ∃ a, x.heard = .value (some a) ∧ x.call.Succeeds a

/-- How calls go that have to succeed one after the other, and whether all did. -/
inductive Attempts : List Call → List Exchange → Bool → Prop where
  | done : Attempts [] [] true
  | next {x calls rest whole} (succeeded : x.Succeeded) (later : Attempts calls rest whole) :
      Attempts (x.call :: calls) (x :: rest) whole
  | failed {x calls} (failed : ¬ x.Succeeded) : Attempts (x.call :: calls) [x] false

namespace Attempts

variable {calls calls' : List Call} {said rest : List Exchange} {whole : Bool}

theorem append (first : Attempts calls said true) (later : Attempts calls' rest whole) :
    Attempts (calls ++ calls') (said ++ rest) whole := by
  generalize done : true = all at first
  induction first with
  | done => exact later
  | next succeeded _ ih => exact .next succeeded (ih done)
  | failed => cases done

theorem append_failed (first : Attempts calls said false) (calls' : List Call) :
    Attempts (calls ++ calls') said false := by
  generalize stopped : false = all at first
  induction first with
  | done => cases stopped
  | next succeeded _ ih => exact .next succeeded (ih stopped)
  | failed failed => exact .failed failed

theorem calls_prefix (h : Attempts calls said whole) : said.map (·.call) <+: calls := by
  induction h with
  | done => exact List.nil_prefix
  | next succeeded _ ih => exact List.cons_prefix_cons.mpr ⟨rfl, ih⟩
  | failed failed => exact List.cons_prefix_cons.mpr ⟨rfl, List.nil_prefix⟩

/-- When all succeeded all were made. -/
theorem of_whole (h : Attempts calls said true) :
    said.map (·.call) = calls ∧ ∀ x ∈ said, x.Succeeded := by
  generalize done : true = all at h
  induction h with
  | done => exact ⟨rfl, fun _ mem => absurd mem List.not_mem_nil⟩
  | next succeeded _ ih =>
      obtain ⟨made, all⟩ := ih done
      exact ⟨by rw [List.map_cons, made], List.forall_mem_cons.mpr ⟨succeeded, all⟩⟩
  | failed => cases done

/-- If not, the last call that was made is the first that failed. -/
theorem of_stopped (h : Attempts calls said false) :
    ∃ before x, said = before ++ [x] ∧ (∀ y ∈ before, y.Succeeded) ∧ ¬ x.Succeeded := by
  generalize stopped : false = all at h
  induction h with
  | done => cases stopped
  | @next y calls rest whole succeeded _ ih =>
      obtain ⟨before, x, rfl, all, failed⟩ := ih stopped
      exact ⟨y :: before, x, rfl, List.forall_mem_cons.mpr ⟨succeeded, all⟩, failed⟩
  | @failed x calls failed =>
      exact ⟨[], x, rfl, fun _ mem => absurd mem List.not_mem_nil, failed⟩

/-- So some call failed. -/
theorem exists_failed (h : Attempts calls said false) : ∃ x ∈ said, ¬ x.Succeeded := by
  obtain ⟨before, x, rfl, -, failed⟩ := h.of_stopped
  exact ⟨x, List.mem_concat_self .., failed⟩

end Attempts

namespace Routine

variable {ε ε' α β : Type}

/-- Every conversation of a routine has a property, which may depend on whether it ends with a
value. -/
def Proceeds (P : List Exchange → Bool → Prop) (r : Routine ε α) : Prop :=
  ∀ (σ : Type) (backend : Backend σ) c, P (r.talk backend c) (r.perform backend c).1.isValue

namespace Proceeds

variable {P Q R : List Exchange → Bool → Prop} {calls : List Call}

theorem mono {r : Routine ε α} (h : r.Proceeds P)
    (weaker : ∀ said whole, P said whole → Q said whole) : r.Proceeds Q :=
  fun σ backend c => weaker _ _ (h σ backend c)

theorem bind {r : Routine ε α} {next : α → Routine ε β} (first : r.Proceeds P)
    (later : ∀ a, (next a).Proceeds Q) (stopped : ∀ said, P said false → R said false)
    (gone : ∀ said rest whole, P said true → Q rest whole → R (said ++ rest) whole) :
    (r >>= next).Proceeds R := by
  intro σ backend c
  have here := first σ backend c
  rw [talk_bind, perform_bind]
  cases ending : (r.perform backend c).1 with
  | value a =>
      rw [ending] at here
      exact gone _ _ _ here (later a σ backend _)
  | error e =>
      rw [ending] at here
      rw [List.append_nil]
      exact stopped _ here
  | crash p =>
      rw [ending] at here
      rw [List.append_nil]
      exact stopped _ here

theorem pure (a : α) : (Pure.pure a : Routine ε α).Proceeds (Attempts []) := fun _ _ _ => .done

theorem log (level : Log.Level) (source : Log.Source) :
    (Routine.log level source : Routine ε Unit).Proceeds (Attempts []) := fun _ _ _ => .done

theorem logIf (reason : Bool) (level : Log.Level) (source : Log.Source) :
    (Routine.logIf reason level source : Routine ε Unit).Proceeds (Attempts []) := by
  cases reason <;> exact fun _ _ _ => .done

/-- What is said without a call comes to nothing before … -/
theorem after {r : Routine ε α} {next : α → Routine ε β} (quiet : r.Proceeds (Attempts []))
    (later : ∀ a, (next a).Proceeds P) : (r >>= next).Proceeds P := by
  refine quiet.bind later ?_ ?_
  · intro said stopped
    cases stopped
  · intro said rest whole quiet later
    cases quiet
    exact later

/-- … or after a routine. -/
theorem before {r : Routine ε α} {next : α → Routine ε β} (first : r.Proceeds P)
    (quiet : ∀ a, (next a).Proceeds (Attempts [])) : (r >>= next).Proceeds P := by
  refine first.bind quiet (fun said stopped => stopped) ?_
  intro said rest whole gone quiet
  cases quiet
  rw [List.append_nil]
  exact gone

/-- A call, and what follows by whether it succeeded. -/
theorem ask {asked : Call} {toError : SandboxError → ε} {next : asked.Answer → Routine ε β}
    (well : ∀ a, asked.Succeeds a → (next a).Proceeds (Attempts calls))
    (badly : ∀ a, ¬ asked.Succeeds a → ∃ e, next a = Routine.fail e) :
    (((Routine.ask asked).mapError toError) >>= next).Proceeds (Attempts (asked :: calls)) := by
  intro σ backend c
  obtain ⟨rest, eq, onValue, onError, onCrash⟩ : ∃ rest,
      (((Routine.ask asked).mapError toError) >>= next) = .call asked rest ∧
        (∀ a, rest (.value a) = next a) ∧ (∀ e, rest (.error e) = Routine.fail (toError e)) ∧
        ∀ p, rest (.crash p) = Routine.crash p :=
    ⟨_, rfl, fun _ => rfl, fun _ => rfl, fun _ => rfl⟩
  rw [eq]
  simp only [talk, perform]
  cases ending : (backend.call asked c).1 with
  | value a =>
      simp only [onValue, Ending.heard]
      by_cases succeeds : asked.Succeeds a
      · have later := well a succeeds σ backend (backend.call asked c).2
        exact .next (x := ⟨asked, _, _, _⟩) ⟨a, rfl, succeeds⟩ later
      · obtain ⟨e, failed⟩ := badly a succeeds
        rw [failed]
        refine .failed (x := ⟨asked, _, _, _⟩) ?_
        rintro ⟨a', heard, succeeded⟩
        cases heard
        exact succeeds succeeded
  | error e =>
      simp only [onError, Ending.heard]
      refine .failed (x := ⟨asked, _, _, _⟩) ?_
      rintro ⟨a, heard, -⟩
      cases heard
  | crash p =>
      simp only [onCrash, Ending.heard]
      refine .failed (x := ⟨asked, _, _, _⟩) ?_
      rintro ⟨a, heard, -⟩
      cases heard

theorem mapError {r : Routine ε α} (f : ε → ε') (h : r.Proceeds P) :
    (r.mapError f).Proceeds P := by
  intro σ backend c
  have here := h σ backend c
  rw [talk_mapError, perform_mapError]
  cases ending : (r.perform backend c).1 <;> rw [ending] at here <;> exact here

end Proceeds

end Routine

/-! ## Traces -/

/-- Where all is done there has been an exchange with a property. -/
def Leaves (P : Exchange → Prop) (said : List Exchange) (whole : Bool) : Prop :=
  whole = true → ∃ x ∈ said, P x

namespace Routine.Proceeds

variable {ε α β : Type} {P : Exchange → Prop} {r : Routine ε α} {next : α → Routine ε β}

theorem leaves_fail (e : ε) : (Routine.fail e : Routine ε α).Proceeds (Leaves P) := by
  intro σ backend c whole
  cases whole

/-- A call that has to succeed has done so. -/
theorem leaves {calls : List Call} {asked : Call} (h : r.Proceeds (Attempts calls))
    (mem : asked ∈ calls) : r.Proceeds (Leaves fun x => x.call = asked ∧ x.Succeeded) := by
  refine h.mono fun said whole gone done => ?_
  subst done
  obtain ⟨made, all⟩ := gone.of_whole
  obtain ⟨x, listed, same⟩ := List.mem_map.mp (made ▸ mem)
  exact ⟨x, listed, same, all x listed⟩

theorem leaves_mono {Q : Exchange → Prop} (h : r.Proceeds (Leaves P)) (weaker : ∀ x, P x → Q x) :
    r.Proceeds (Leaves Q) := by
  refine h.mono fun said whole left done => ?_
  obtain ⟨x, mem, holds⟩ := left done
  exact ⟨x, mem, weaker x holds⟩

/-- What a part leaves the whole does, whether it is the first … -/
theorem leaves_first (first : r.Proceeds (Leaves P)) : (r >>= next).Proceeds (Leaves P) := by
  refine first.bind (Q := fun _ _ => True) (fun _ _ _ _ => trivial) ?_ ?_
  · intro said left whole
    cases whole
  · intro said rest whole left _ _
    obtain ⟨x, mem, holds⟩ := left rfl
    exact ⟨x, List.mem_append_left _ mem, holds⟩

/-- … or the last. -/
theorem leaves_last (later : ∀ a, (next a).Proceeds (Leaves P)) :
    (r >>= next).Proceeds (Leaves P) := by
  have any : r.Proceeds fun _ _ => True := fun _ _ _ => trivial
  refine any.bind later ?_ ?_
  · intro said _ whole
    cases whole
  · intro said rest whole _ left done
    obtain ⟨x, mem, holds⟩ := left done
    exact ⟨x, List.mem_append_right _ mem, holds⟩

end Routine.Proceeds

end AgentTrial
