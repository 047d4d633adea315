import AgentTrial.Execution
import AgentTrial.Proofs.Routine.Conversation
import AgentTrial.Result.Outcome

/-!
# Milestones

The order in which a trial has to go, told apart from how it is done: a list of milestones, each of
which is passed or missed, and belongs to a stage.

* **Milestones** — a call that has to be answered well, a check without a call, or a wait for a
  process (`Milestone.Ends`).
* **Walks** — milestones are passed in their order up to the end, or up to the first that is missed,
  after which there are no more calls (`Walk`). A conversation is at most one walk
  (`Walk.unique`).
* **Tracking** — a routine tracks milestones when each of its calm conversations is a walk and its
  ending tells how far it went (`Routine.Tracks`). It is shown part by part.
-/

namespace AgentTrial

open Execution (Sign)

/-! ## Milestones -/

/-- An event on the way of a trial, with the stage that owns it. -/
inductive Milestone where
  /-- A call, which has to be answered well. -/
  | call (stage : Stage) (asked : Call) (passes : asked.Answer → Bool)
  /-- A check that needs no call. -/
  | check (stage : Stage) (holds : Bool)
  /-- Probes of a process until it is gone, but not beyond a deadline. -/
  | await (stage : Stage) (probe session : String) (deadline : Nat)

/-- The stage that owns a milestone. -/
def Milestone.stage : Milestone → Stage
  | .call stage _ _ => stage
  | .check stage _ => stage
  | .await stage _ _ _ => stage

/-- An exchange is a probe, and it tells something of the process. -/
def Exchange.Tells (x : Exchange) (probe session : String) (sign : Sign) : Prop :=
  ∃ began ended heard, x = ⟨.probe probe session, began, ended, heard⟩ ∧ Sign.of heard = .ok sign

/-- How probes of a process may go, and whether it is gone in the end. The last is the first that
finds the process gone or ends at the deadline or later. -/
inductive Awaits (probe session : String) (deadline : Nat) : List Exchange → Bool → Prop where
  | gone {x : Exchange} (tells : x.Tells probe session .gone) :
      Awaits probe session deadline [x] true
  | late {x : Exchange} {sign : Sign} (tells : x.Tells probe session sign) (there : sign ≠ .gone)
      (late : deadline ≤ x.ended) : Awaits probe session deadline [x] false
  | again {x : Exchange} {sign : Sign} {rest : List Exchange} {isGone : Bool}
      (tells : x.Tells probe session sign) (there : sign ≠ .gone) (early : x.ended < deadline)
      (later : Awaits probe session deadline rest isGone) :
      Awaits probe session deadline (x :: rest) isGone

/-- What is said at a milestone, and whether it is passed. -/
inductive Milestone.Ends : Milestone → List Exchange → Bool → Prop where
  | answered {stage asked passes began ended} (a : asked.Answer) :
      Ends (.call stage asked passes) [⟨asked, began, ended, .value (some a)⟩] (passes a)
  | unanswered {stage asked passes began ended heard} (none : ∀ a, heard ≠ .value (some a)) :
      Ends (.call stage asked passes) [⟨asked, began, ended, heard⟩] false
  | check {stage holds} : Ends (.check stage holds) [] holds
  | await {stage probe session deadline talk isGone}
      (awaits : Awaits probe session deadline talk isGone) :
      Ends (.await stage probe session deadline) talk isGone

theorem Milestone.Ends.awaits {stage : Stage} {probe session : String} {deadline : Nat}
    {talk : List Exchange} {isGone : Bool}
    (h : Ends (.await stage probe session deadline) talk isGone) :
    Awaits probe session deadline talk isGone := by
  cases h with
  | await awaits => exact awaits

theorem Milestone.Ends.ofAnswer {stage : Stage} {asked : Call} {passes : asked.Answer → Bool}
    {began ended : Nat} {a : asked.Answer} {passed : Bool} (h : passes a = passed) :
    Ends (.call stage asked passes) [⟨asked, began, ended, .value (some a)⟩] passed :=
  h ▸ .answered a

/-! ## Walks -/

/-- A conversation that passes milestones in their order, up to the end or to the first that is
missed; and the stage that owns the latter. -/
inductive Walk : List Milestone → List Exchange → Option Stage → Prop where
  | done : Walk [] [] none
  | pass {m ms talk rest fate} (here : m.Ends talk true) (later : Walk ms rest fate) :
      Walk (m :: ms) (talk ++ rest) fate
  | miss {m ms talk} (here : m.Ends talk false) : Walk (m :: ms) talk (some m.stage)

namespace Walk

variable {ms ms' : List Milestone} {talk talk' : List Exchange} {fate : Option Stage}

theorem append (first : Walk ms talk none) (later : Walk ms' talk' fate) :
    Walk (ms ++ ms') (talk ++ talk') fate := by
  generalize whole : (none : Option Stage) = fate' at first
  induction first with
  | done => exact later
  | pass here _ ih =>
      rw [List.cons_append, List.append_assoc]
      exact .pass here (ih whole)
  | miss here => cases whole

theorem eq_nil (h : Walk [] talk fate) : talk = [] := by
  cases h
  rfl

theorem ne_some {stage : Stage} : ¬ Walk [] talk (some stage) := nofun

theorem append_missed {stage : Stage} (first : Walk ms talk (some stage)) :
    Walk (ms ++ ms') talk (some stage) := by
  generalize missed : some stage = fate' at first
  induction first with
  | done => cases missed
  | pass here _ ih => exact .pass here (ih missed)
  | miss here => exact .miss here

end Walk

/-! ## Milestones without waits -/

/-- Whether what is said at a milestone is settled beforehand: one call, or nothing. -/
def Milestone.isFixed : Milestone → Bool
  | .await .. => false
  | _ => true

/-- The call at a milestone that is settled beforehand. -/
def Milestone.calls : Milestone → List Call
  | .call _ asked _ => [asked]
  | _ => []

theorem Milestone.Ends.calls {m : Milestone} {talk : List Exchange} {passed : Bool}
    (fixed : m.isFixed) (h : m.Ends talk passed) : talk.map (·.call) = m.calls := by
  cases h with
  | answered a => rfl
  | unanswered none => rfl
  | check => rfl
  | await awaits => cases fixed

/-- Of two things said at such a milestone neither is the beginning of the other. -/
theorem Milestone.Ends.unique {m : Milestone} {talk talk' u u' : List Exchange}
    {passed passed' : Bool} (fixed : m.isFixed) (h : m.Ends talk passed) (h' : m.Ends talk' passed')
    (same : talk ++ u = talk' ++ u') : talk = talk' ∧ passed = passed' := by
  cases h with
  | answered a =>
      cases h' with
      | answered a' =>
          simp only [List.cons_append, List.nil_append, List.cons.injEq, Exchange.mk.injEq,
            heq_eq_eq, true_and, Ending.value.injEq, Option.some.injEq] at same
          -- the same answer passes or fails in both
          obtain ⟨⟨rfl, rfl, rfl⟩, rfl⟩ := same
          exact ⟨rfl, rfl⟩
      | unanswered none =>
          simp only [List.cons_append, List.nil_append, List.cons.injEq, Exchange.mk.injEq,
            heq_eq_eq, true_and] at same
          exact absurd same.1.2.2.symm (none a)
  | unanswered none =>
      cases h' with
      | answered a' =>
          simp only [List.cons_append, List.nil_append, List.cons.injEq, Exchange.mk.injEq,
            heq_eq_eq, true_and] at same
          exact absurd same.1.2.2 (none a')
      | unanswered none' =>
          simp only [List.cons_append, List.nil_append, List.cons.injEq] at same
          exact ⟨by rw [same.1], rfl⟩
  | check =>
      cases h'
      exact ⟨rfl, rfl⟩
  | await awaits => cases fixed

namespace Walk

variable {ms : List Milestone} {talk talk' u u' : List Exchange} {fate fate' : Option Stage}

/-- A conversation has at most one beginning that is a walk along such milestones. -/
theorem unique (fixed : ∀ m ∈ ms, m.isFixed) (h : Walk ms talk fate) (h' : Walk ms talk' fate')
    (same : talk ++ u = talk' ++ u') : talk = talk' ∧ fate = fate' := by
  induction h generalizing talk' with
  | done =>
      cases h'
      exact ⟨rfl, rfl⟩
  | @pass m ms first rest fate here _ ih =>
      have own := fixed m List.mem_cons_self
      cases h' with
      | @pass _ _ first' rest' _ here' later' =>
          rw [List.append_assoc, List.append_assoc] at same
          -- both pass here, with the same words, so the rests agree as well
          obtain ⟨rfl, -⟩ := here.unique own here' same
          have tail := ih (fun m mem => fixed m (List.mem_cons_of_mem _ mem)) later'
            (List.append_cancel_left same)
          exact ⟨by rw [tail.1], tail.2⟩
      | miss here' =>
          -- what is said here cannot be enough for one walk and not for the other
          rw [List.append_assoc] at same
          cases (here.unique own here' same).2
  | @miss m ms talk here =>
      have own := fixed m List.mem_cons_self
      cases h' with
      | pass here' later' =>
          rw [List.append_assoc] at same
          cases (here.unique own here' same).2
      | miss here' => exact ⟨(here.unique own here' same).1, rfl⟩

theorem unique_whole (fixed : ∀ m ∈ ms, m.isFixed) (h : Walk ms talk fate)
    (h' : Walk ms talk' fate') (same : talk = talk') : fate = fate' := by
  subst same
  have ends : talk ++ [] = talk ++ [] := rfl
  exact (h.unique fixed h' ends).2

/-- A walk makes the calls of its milestones up to where it ends. -/
theorem calls_prefix (fixed : ∀ m ∈ ms, m.isFixed) (h : Walk ms talk fate) :
    talk.map (·.call) <+: ms.flatMap Milestone.calls := by
  induction h with
  | done => exact List.nil_prefix
  | @pass m ms first rest fate here _ ih =>
      rw [List.map_append, List.flatMap_cons, here.calls (fixed m List.mem_cons_self),
        List.prefix_append_right_inj]
      exact ih fun m mem => fixed m (List.mem_cons_of_mem _ mem)
  | @miss m ms talk here =>
      rw [List.flatMap_cons, here.calls (fixed m List.mem_cons_self)]
      exact List.prefix_append _ _

theorem calls_eq (fixed : ∀ m ∈ ms, m.isFixed) (h : Walk ms talk none) :
    talk.map (·.call) = ms.flatMap Milestone.calls := by
  generalize whole : (none : Option Stage) = fate at h
  induction h with
  | done => rfl
  | @pass m ms first rest fate here _ ih =>
      rw [List.map_append, List.flatMap_cons, here.calls (fixed m List.mem_cons_self),
        ih (fun m mem => fixed m (List.mem_cons_of_mem _ mem)) whole]
  | miss here => cases whole

end Walk

/-! ## What came before -/

/-- At most one thing is said at such a milestone. -/
theorem Milestone.Ends.single {m : Milestone} {before after : List Exchange} {x : Exchange}
    {passed : Bool} (fixed : m.isFixed) (h : m.Ends (before ++ x :: after) passed) :
    before = [] ∧ m.calls = [x.call] := by
  have calls := h.calls fixed
  have few : m.calls.length ≤ 1 := by cases m <;> simp [Milestone.calls]
  rw [← calls, List.length_map, List.length_append, List.length_cons] at few
  obtain rfl : before = [] := List.length_eq_zero_iff.mp (by omega)
  obtain rfl : after = [] := List.length_eq_zero_iff.mp (by omega)
  exact ⟨rfl, calls.symm⟩

theorem Milestone.Ends.exists_answered {stage : Stage} {asked : Call}
    {passes : asked.Answer → Bool} {talk : List Exchange}
    (h : Ends (.call stage asked passes) talk true) :
    ∃ x ∈ talk, x.call = asked ∧ x.isAnswered := by
  obtain ⟨passed, yes⟩ : ∃ passed, passed = true := ⟨_, rfl⟩
  rw [← yes] at h
  cases h with
  | answered a => exact ⟨_, List.mem_cons_self, rfl, rfl⟩
  | unanswered => cases yes

namespace Walk

variable {ms before : List Milestone} {talk said rest : List Exchange} {x : Exchange}
  {fate : Option Stage} {stage : Stage} {asked : Call} {passes : asked.Answer → Bool}

/-- What is said on a walk is said at one of its milestones, and all before that one were passed. -/
theorem split (fixed : ∀ m ∈ ms, m.isFixed) (h : Walk ms talk fate) (place : talk = said ++ x :: rest) :
    ∃ passed m ahead, ms = passed ++ m :: ahead ∧ m.calls = [x.call] ∧ Walk passed said none := by
  induction h generalizing said with
  | done => simp at place
  | @pass m ms first others fate here _ ih =>
      have own := fixed m List.mem_cons_self
      have fixed' : ∀ m ∈ ms, m.isFixed := fun m mem => fixed m (List.mem_cons_of_mem _ mem)
      rcases List.append_eq_append_iff.mp place with ⟨more, rfl, tail⟩ | ⟨more, rfl, tail⟩
      · -- it is said later
        obtain ⟨passed, m', ahead, rfl, calls, walk⟩ := ih fixed' tail
        exact ⟨m :: passed, m', ahead, rfl, calls, .pass here walk⟩
      · cases more with
        | nil =>
            -- it is said first of what is said later
            obtain ⟨passed, m', ahead, rfl, calls, walk⟩ := @ih [] fixed' tail.symm
            have both := Walk.pass here walk
            rw [List.append_nil, List.append_nil] at both
            exact ⟨m :: passed, m', ahead, rfl, calls, both⟩
        | cons y more =>
            obtain ⟨rfl, -⟩ := List.cons.inj tail
            obtain ⟨rfl, calls⟩ := here.single own
            exact ⟨[], m, ms, rfl, calls, .done⟩
  | @miss m ms talk here =>
      subst place
      obtain ⟨rfl, calls⟩ := here.single (fixed m List.mem_cons_self)
      exact ⟨[], m, ms, rfl, calls, .done⟩

/-- On a walk to the end every call is answered. -/
theorem exists_answered (h : Walk ms talk none) (mem : .call stage asked passes ∈ ms) :
    ∃ x ∈ talk, x.call = asked ∧ x.isAnswered := by
  generalize whole : (none : Option Stage) = fate at h
  induction h with
  | done => cases mem
  | pass here _ ih =>
      rcases List.mem_cons.mp mem with rfl | mem
      · obtain ⟨x, said, answered⟩ := here.exists_answered
        exact ⟨x, List.mem_append_left _ said, answered⟩
      · obtain ⟨x, said, answered⟩ := ih mem whole
        exact ⟨x, List.mem_append_right _ said, answered⟩
  | miss => cases whole

/-- What is said at no milestone up to a call is said after the call was answered. -/
theorem answered_before (fixed : ∀ m ∈ ms, m.isFixed) (h : Walk ms (said ++ x :: rest) fate)
    (among : before ++ [.call stage asked passes] <+: ms)
    (later : ∀ m ∈ before ++ [.call stage asked passes], m.calls ≠ [x.call]) :
    ∃ y ∈ said, y.call = asked ∧ y.isAnswered := by
  obtain ⟨passed, m, ahead, rfl, calls, walk⟩ := h.split fixed rfl
  obtain ⟨tail, same⟩ := among
  rcases List.append_eq_append_iff.mp same with ⟨more, rfl, -⟩ | ⟨more, whole, tail⟩
  · exact walk.exists_answered (List.mem_append_left more (List.mem_concat_self ..))
  · cases more with
    | nil =>
        rw [List.append_nil] at whole
        subst whole
        exact walk.exists_answered (List.mem_concat_self ..)
    | cons m' more =>
        obtain ⟨rfl, -⟩ := List.cons.inj tail
        have early : m ∈ before ++ [.call stage asked passes] := by
          rw [whole]
          simp
        exact absurd calls (later m early)

end Walk

/-! ## Waits -/

/-- A probe tells one thing. -/
theorem Exchange.Tells.unique {x : Exchange} {probe session : String} {sign sign' : Sign}
    (h : x.Tells probe session sign) (h' : x.Tells probe session sign') : sign = sign' := by
  obtain ⟨began, ended, heard, rfl, told⟩ := h
  obtain ⟨_, _, _, same, told'⟩ := h'
  cases same
  rw [told] at told'
  exact Except.ok.inj told'

namespace Awaits

variable {probe session : String} {deadline : Nat} {talk talk' u u' : List Exchange}
  {isGone : Bool}

/-- Nothing but probes is said in a wait. -/
theorem calls (h : Awaits probe session deadline talk isGone) :
    talk.map (·.call) = List.replicate talk.length (.probe probe session) := by
  induction h with
  | gone tells =>
      obtain ⟨_, _, _, rfl, -⟩ := tells
      rfl
  | late tells =>
      obtain ⟨_, _, _, rfl, -⟩ := tells
      rfl
  | again tells _ _ _ ih =>
      obtain ⟨_, _, _, rfl, -⟩ := tells
      rw [List.map_cons, ih]
      rfl

/-- Some probe finds a process gone that is found gone … -/
theorem exists_gone (h : Awaits probe session deadline talk true) :
    ∃ x ∈ talk, x.Tells probe session .gone := by
  generalize found : true = isGone at h
  induction h with
  | gone tells => exact ⟨_, List.mem_cons_self, tells⟩
  | late => cases found
  | again _ _ _ _ ih =>
      obtain ⟨x, mem, tells⟩ := ih found
      exact ⟨x, List.mem_cons_of_mem _ mem, tells⟩

/-- … and no probe one that is not. -/
theorem forall_there (h : Awaits probe session deadline talk false) :
    ∀ x ∈ talk, ¬ x.Tells probe session .gone := by
  generalize missed : false = isGone at h
  induction h with
  | gone => cases missed
  | late tells there =>
      intro x mem gone
      rw [List.mem_singleton.mp mem] at gone
      exact there (tells.unique gone)
  | again tells there _ _ ih =>
      intro x mem gone
      obtain rfl | later := List.mem_cons.mp mem
      · exact there (tells.unique gone)
      · exact ih missed x later gone

/-- A wait for a process that is found gone is over with the first probe that finds it so. -/
theorem unique (h : Awaits probe session deadline talk true)
    (h' : Awaits probe session deadline talk' true) (same : talk ++ u = talk' ++ u') :
    talk = talk' := by
  generalize found : true = isGone at h
  induction h generalizing talk' with
  | gone tells =>
      cases h' with
      | gone => exact congrArg ([·]) (List.cons.inj same).1
      | again tells' there =>
          rw [(List.cons.inj same).1] at tells
          exact (there (tells'.unique tells)).elim
  | late => cases found
  | again tells there _ _ ih =>
      cases h' with
      | gone tells' =>
          rw [(List.cons.inj same).1] at tells
          exact (there (tells.unique tells')).elim
      | again _ _ _ later' =>
          obtain ⟨rfl, rest⟩ := List.cons.inj same
          rw [ih later' rest found]

end Awaits

/-! ## Tracking -/

namespace Routine

variable {ε ε' α β : Type}

/-- What an ending tells of how far a routine went: with a value nothing was missed, with an error
something was, whose stage can be told by the error. -/
def Told (blame : ε → Stage) (far : Option Stage → Prop) : Ending ε α → Prop
  | .value _ => far none
  | .error e => far (some (blame e))
  | .crash _ => False

theorem Told.mono {blame : ε → Stage} {far far' : Option Stage → Prop}
    (weaker : ∀ fate, far fate → far' fate) {ending : Ending ε α} (h : Told blame far ending) :
    Told blame far' ending := by
  cases ending with
  | value a => exact weaker _ h
  | error e => exact weaker _ h
  | crash p => exact h

theorem Told.mapError {σ : Type} {backend : Backend σ} {c : Course σ} {blame : ε → Stage}
    {blame' : ε' → Stage} {far : Option Stage → Prop} {r : Routine ε α} {f : ε → ε'}
    (told : Told blame far (r.perform backend c).1) (same : ∀ e, blame' (f e) = blame e) :
    Told blame' far ((r.mapError f).perform backend c).1 := by
  rw [perform_mapError]
  cases ending : (r.perform backend c).1 with
  | value a =>
      rw [ending] at told
      exact told
  | error e =>
      rw [ending] at told
      show far (some (blame' (f e)))
      rw [same]
      exact told
  | crash p =>
      rw [ending] at told
      exact told

/-- A routine and what follows it, told one after the other. -/
theorem Told.bind {σ : Type} {backend : Backend σ} {c : Course σ} {blame : ε → Stage}
    {r : Routine ε α} {next : α → Routine ε β} {part : Option Stage → Prop}
    {whole : List Exchange → Option Stage → Prop} (first : Told blame part (r.perform backend c).1)
    (missed : ∀ stage, part (some stage) → whole (r.talk backend c) (some stage))
    (rest : ∀ a, (r.perform backend c).1 = .value a → part none →
      Told blame
        (whole (r.talk backend c ++ (next a).talk backend (r.perform backend c).2))
        ((next a).perform backend (r.perform backend c).2).1) :
    Told blame (whole ((r >>= next).talk backend c)) ((r >>= next).perform backend c).1 := by
  rw [talk_bind, perform_bind]
  cases ending : (r.perform backend c).1 with
  | value a =>
      rw [ending] at first
      exact rest a ending first
  | error e =>
      rw [ending] at first
      rw [List.append_nil]
      exact missed (blame e) first
  | crash p =>
      rw [ending] at first
      exact first

/-- Every calm conversation of a routine is a walk along milestones, and the ending of the routine
tells how far it went. -/
def Tracks (blame : ε → Stage) (ms : List Milestone) (r : Routine ε α) : Prop :=
  ∀ (σ : Type) (backend : Backend σ) (c : Course σ), (∀ x ∈ r.talk backend c, x.IsCalm) →
    Told blame (Walk ms (r.talk backend c)) (r.perform backend c).1

namespace Tracks

variable {blame : ε → Stage} {ms ms' : List Milestone}

theorem pure (a : α) : Tracks blame [] (Pure.pure a : Routine ε α) := fun _ _ _ _ => .done

theorem log (level : Log.Level) (source : Log.Source) :
    Tracks blame [] (Routine.log level source) := fun _ _ _ _ => .done

theorem logIf (reason : Bool) (level : Log.Level) (source : Log.Source) :
    Tracks blame [] (Routine.logIf reason level source) := by
  cases reason <;> exact fun _ _ _ _ => .done

theorem bind {r : Routine ε α} {next : α → Routine ε β} (first : r.Tracks blame ms)
    (rest : ∀ a, (next a).Tracks blame ms') : (r >>= next).Tracks blame (ms ++ ms') := by
  intro σ backend c calm
  obtain ⟨here, later⟩ := forall_talk_bind calm
  refine (first σ backend c here).bind (fun stage missed => missed.append_missed) ?_
  intro a ending walked
  have told := rest a σ backend _ (later a ending)
  exact told.mono fun fate walk => walked.append walk

/-- A routine without milestones says nothing and ends well. -/
theorem quiet {r : Routine ε α} (h : r.Tracks blame []) {σ : Type} (backend : Backend σ)
    (c : Course σ) (calm : ∀ x ∈ r.talk backend c, x.IsCalm) :
    r.talk backend c = [] ∧ ∃ a, (r.perform backend c).1 = .value a := by
  have walked := h σ backend c calm
  cases ending : (r.perform backend c).1 with
  | value a =>
      rw [ending] at walked
      exact ⟨Walk.eq_nil walked, a, rfl⟩
  | error e =>
      rw [ending] at walked
      exact (Walk.ne_some walked).elim
  | crash p =>
      rw [ending] at walked
      exact walked.elim

/-- What comes to nothing before … -/
theorem after {r : Routine ε α} {next : α → Routine ε β} (quiet : r.Tracks blame [])
    (rest : ∀ a, (next a).Tracks blame ms) : (r >>= next).Tracks blame ms :=
  quiet.bind rest

/-- … or after a routine changes nothing. -/
theorem before {r : Routine ε α} {next : α → Routine ε β} (first : r.Tracks blame ms)
    (quiet : ∀ a, (next a).Tracks blame []) : (r >>= next).Tracks blame ms := by
  rw [← List.append_nil ms]
  exact first.bind quiet

/-- A check that holds changes nothing. -/
theorem check {stage : Stage} {r : Routine ε α} (h : r.Tracks blame ms) :
    r.Tracks blame (.check stage true :: ms) := by
  intro σ backend c calm
  have walked := h σ backend c calm
  exact walked.mono fun fate walk => .pass .check walk

/-- Where a check fails nothing is said. -/
theorem fail {stage : Stage} {e : ε} (owner : blame e = stage) (ms : List Milestone) :
    (Routine.fail e : Routine ε α).Tracks blame (.check stage false :: ms) := by
  subst owner
  exact fun _ _ _ _ => .miss .check

theorem mapError {blame' : ε' → Stage} {r : Routine ε α} (h : r.Tracks blame ms) {f : ε → ε'}
    (same : ∀ e, blame' (f e) = blame e) : (r.mapError f).Tracks blame' ms := by
  intro σ backend c calm
  rw [talk_mapError] at calm ⊢
  exact (h σ backend c calm).mapError same

/-- A call, and what follows by whether it was answered well. -/
theorem ask {stage : Stage} {asked : Call} {passes : asked.Answer → Bool}
    {toError : SandboxError → ε} {next : asked.Answer → Routine ε β}
    (owner : ∀ e, blame (toError e) = stage)
    (well : ∀ a, passes a = true → (next a).Tracks blame ms)
    (badly : ∀ a, passes a = false → ∃ e, next a = Routine.fail e ∧ blame e = stage) :
    (((Routine.ask asked).mapError toError) >>= next).Tracks blame
      (.call stage asked passes :: ms) := by
  intro σ backend c calm
  obtain ⟨rest, eq, onValue, onError⟩ : ∃ rest,
      (((Routine.ask asked).mapError toError) >>= next) = .call asked rest ∧
        (∀ a, rest (.value a) = next a) ∧ ∀ e, rest (.error e) = Routine.fail (toError e) :=
    ⟨_, rfl, fun _ => rfl, fun _ => rfl⟩
  rw [eq] at calm ⊢
  simp only [talk, perform] at calm ⊢
  cases ending : (backend.call asked c).1 with
  | value a =>
      simp only [ending, onValue, Ending.heard] at calm ⊢
      cases passed : passes a with
      | true =>
          have later := well a passed σ backend (backend.call asked c).2 fun x mem =>
            calm x (List.mem_cons_of_mem _ mem)
          exact later.mono fun fate walk => .pass (.ofAnswer passed) walk
      | false =>
          obtain ⟨e, failed, rfl⟩ := badly a passed
          rw [failed]
          exact .miss (.ofAnswer passed)
  | error e =>
      simp only [ending, onError, Ending.heard] at calm ⊢
      rw [← owner e]
      exact .miss (.unanswered (by simp))
  | crash p =>
      simp only [ending, Ending.heard] at calm
      exact (calm _ List.mem_cons_self p rfl).elim

end Tracks

end Routine

end AgentTrial
