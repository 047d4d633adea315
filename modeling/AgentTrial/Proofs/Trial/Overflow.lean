import AgentTrial.Proofs.Trial.Deadlines

/-!
# Deadlines beyond the clock

A deadline is told by adding the timeout to the clock, once the process of an execution is known. No
check of the settings keeps the sum within what the clock can show.

* **Launches** — however a process is waited for, without one an execution comes to a result whatever
  the timeout is (`execution_unlaunched`), and with one it crashes right after the launch when the
  deadline is beyond the clock (`execution_overflows`).
* **No pause** — so many rounds without a pause end the wait, or every one of them finds nothing
  before the deadline (`spin_settles`, by induction on the rounds). More rounds change nothing once
  it has ended (`spin_stable`, `restless_stable`), and it ends when probes take time (`not_stalls`).
* **Crashes** — so there is no other way in which an execution crashes by itself, and with a pause it
  always ends (`execution_ends_iff`). The longest timeout that the settings take is such a crash
  (`longest_timeout_crashes`).
-/

namespace AgentTrial

/-- The clock shows a deadline unless it lies after the last second. -/
theorem Clock.not_reaches_iff {clock : Clock} {now secs : Nat} :
    ¬ clock.reaches now secs ↔ Clock.lastSecond < (clock.uptime + now) / 1000 + secs := by
  simp only [Clock.reaches, decide_eq_true_eq]
  omega

namespace Execution

open Routine

namespace Terms

variable (terms : Terms) {σ ε : Type} (backend : Backend σ) (command session : String)
  (timeoutSecs : Nat) (outputPath : String) (c : Course σ)

/-- The launch is answered with a process when the clock cannot show the deadline any more. -/
def Overflows : Prop :=
  ∃ pid arrival, terms.Launched backend command session outputPath c pid arrival ∧
    Clock.lastSecond < (terms.clock.uptime + arrival) / 1000 + timeoutSecs

theorem Launched.reaches {terms : Terms} {backend : Backend σ} {command session : String}
    {timeoutSecs : Nat} {outputPath : String} {c : Course σ} {pid arrival : Nat}
    (launched : terms.Launched backend command session outputPath c pid arrival)
    (inTime : ¬ terms.Overflows backend command session timeoutSecs outputPath c) :
    terms.clock.reaches arrival timeoutSecs := by
  by_contra late
  exact inTime ⟨pid, arrival, launched, Clock.not_reaches_iff.mp late⟩

/-! ## Launches -/

/-- An execution that does not learn of its process comes to a result. -/
theorem execution_unlaunched (wait : String → String → Nat → Routine ε Bool)
    (unlaunched : ∀ pid arrival, ¬ terms.Launched backend command session outputPath c pid arrival)
    (calm : ∀ x ∈ (terms.execution wait command session timeoutSecs outputPath).talk backend c,
      x.IsCalm) :
    ∃ result, ((terms.execution wait command session timeoutSecs outputPath).perform backend c).1 =
      .value result := by
  rw [execution, log_bind, request_bind] at calm ⊢
  simp only [talk, perform, Backend.call] at calm ⊢
  cases answer : (backend.respond c.box c.now (.run (dispatchCommand command outputPath)
      (some session) .normal terms.dispatchLimit)).1.ending with
  | value out =>
      cases known : extractPid? out.output with
      | none =>
          simp only [known]
          exact ⟨_, rfl⟩
      | some pid => exact (unlaunched pid _ ⟨⟨out, answer, known⟩, rfl⟩).elim
  | error e => exact ⟨_, rfl⟩
  | crash p =>
      simp only [answer] at calm
      exact (calm _ List.mem_cons_self p rfl).elim

/-- An execution whose deadline is beyond the clock crashes with its process launched, which is
never probed. -/
theorem execution_overflows (wait : String → String → Nat → Routine ε Bool)
    (overflows : terms.Overflows backend command session timeoutSecs outputPath c) :
    ((terms.execution wait command session timeoutSecs outputPath).perform backend c).1 =
      .crash (.message overflowText) ∧
    ∃ launch, (terms.execution wait command session timeoutSecs outputPath).talk backend c =
      [launch] ∧ launch.call = terms.launchCall command session outputPath := by
  obtain ⟨pid, arrival, launched, beyond⟩ := overflows
  obtain ⟨out, d, said, done, rfl, -⟩ := execution_launched wait timeoutSecs launched
  have late : terms.clock.reaches d.now timeoutSecs = false :=
    Bool.eq_false_iff.mpr (Clock.not_reaches_iff.mpr beyond)
  rw [await, log_bind] at said done
  simp only [talk, perform, late] at said done
  rw [done]
  exact ⟨rfl, _, said, rfl⟩

end Terms

/-! ## No pause -/

section Spin

variable {σ : Type} (backend : Backend σ) (probe session : String)

/-- A probe that finds nothing, before the deadline. -/
def IsIdle (deadline : Nat) (x : Exchange) : Prop :=
  FindsNothing probe session (patience 0 deadline) x ∧ x.ended < deadline

/-- A probe that does not take long enough to be cut takes the time of its reply. -/
theorem IsIdle.began_lt {probe session : String} {deadline : Nat} {x : Exchange}
    {reply : Reply x.call.Answer} (idle : IsIdle probe session deadline x) (hears : x.Hears reply)
    (slow : 0 < reply.delay) : x.began < x.ended := by
  obtain ⟨finds, early⟩ := idle
  rcases hears with ⟨ended, -⟩ | ⟨-, unheard⟩
  · omega
  · cases finds with
    | there => cases unheard
    | failed => cases unheard
    | cut =>
        -- a probe that is cut is over at the deadline
        simp only [patience] at early ⊢
        omega

/-- So many rounds without a pause tell whether the process is gone, or they are all spent on probes
that find nothing before the deadline. No more of these take any time than there is. -/
theorem spin_settles (rounds remaining : Nat) (c : Course σ)
    (calm : ∀ x ∈ (spin probe session rounds remaining).talk backend c, x.IsCalm) :
    (∃ isGone, ((spin probe session rounds remaining).perform backend c).1 = .value isGone ∧
      Polls 0 probe session (c.now + remaining) c.now
        ((spin probe session rounds remaining).talk backend c) isGone
        ((spin probe session rounds remaining).perform backend c).2.now) ∨
    (((spin probe session rounds remaining).perform backend c).1 = .error .broken ∧
      ((spin probe session rounds remaining).talk backend c).length = rounds ∧
      (∀ x ∈ (spin probe session rounds remaining).talk backend c,
        IsIdle probe session (c.now + remaining) x) ∧
      ((spin probe session rounds remaining).talk backend c).countP (fun x => x.began < x.ended) ≤
        remaining) := by
  induction rounds generalizing remaining c with
  | zero => exact .inr ⟨rfl, rfl, fun x mem => absurd mem List.not_mem_nil, Nat.zero_le _⟩
  | succ rounds ih =>
      rw [spin] at calm ⊢
      obtain ⟨x, rest, last, said, done, -, began, later, -, gone | late | again | ⟨p, crash, -⟩⟩ :=
        round_cases backend 0 probe session remaining
          (fun left _ => spin probe session rounds left) c
      · obtain ⟨finds, rfl, value, ended⟩ := gone
        rw [said, done, value, ended, ← began]
        rw [← began] at finds
        exact .inl ⟨true, rfl, .gone finds⟩
      · obtain ⟨finds, late, rfl, value, ended⟩ := late
        rw [said, done, value, ended, ← began]
        rw [← began] at finds late
        exact .inl ⟨false, rfl, .late finds late⟩
      · obtain ⟨finds, early, left, less, d, pause, same, rfl, rfl⟩ := again
        rw [said] at calm ⊢
        rw [done]
        -- the deadline is the same in the next round
        have goes := ih left d fun x mem => calm x (List.mem_cons_of_mem _ mem)
        rw [same] at goes
        rcases goes with ⟨isGone, value, polls⟩ | ⟨broken, length, idle, few⟩
        · rw [pause] at polls
          rw [← began] at finds early polls ⊢
          exact .inl ⟨isGone, value, .again finds early polls⟩
        · refine .inr ⟨broken, by rw [List.length_cons, length], fun y mem => ?_, ?_⟩
          · rcases List.mem_cons.mp mem with rfl | mem
            · exact ⟨finds, early⟩
            · exact idle y mem
          · rw [List.countP_cons]
            split
            · rename_i took
              simp only [decide_eq_true_eq] at took
              omega
            · omega
      · -- a calm conversation hears of no crash
        exact (calm x (said ▸ List.mem_cons_self) p crash).elim

/-- A round ends the wait or goes on from some instant, whatever it would go on with. -/
theorem round_goes {ε : Type} (pause remaining : Nat) (c : Course σ) :
    (∃ last, ∀ again : (left : Nat) → (0 < pause → left < remaining) → Routine ε Bool,
      (round pause probe session remaining again).perform backend c = last) ∨
    (∃ left less d, ∀ again : (left : Nat) → (0 < pause → left < remaining) → Routine ε Bool,
      (round pause probe session remaining again).perform backend c =
        (again left less).perform backend d) := by
  unfold round
  simp only [perform]
  cases backend.callWithin (max remaining pause) (.probe probe session) c with
  | mk ending d =>
      simp only
      cases Sign.of ending with
      | error p => exact .inl ⟨_, fun _ => rfl⟩
      | ok sign =>
          cases sign with
          | gone => exact .inl ⟨_, fun _ => rfl⟩
          | alive | unclear =>
            by_cases spent : remaining - (d.now - c.now) = 0
            · simp only [dif_pos spent]
              exact .inl ⟨_, fun _ => rfl⟩
            · simp only [dif_neg spent]
              exact .inr ⟨_, by omega, _, fun _ => rfl⟩

/-- More rounds change nothing once the wait has ended. -/
theorem spin_stable {rounds more : Nat} (enough : rounds ≤ more) (remaining : Nat) (c : Course σ)
    (ended : ((spin probe session rounds remaining).perform backend c).1 ≠ .error .broken) :
    (spin probe session more remaining).perform backend c =
      (spin probe session rounds remaining).perform backend c := by
  induction rounds generalizing more remaining c with
  | zero => exact (ended rfl).elim
  | succ rounds ih =>
      cases more with
      | zero => omega
      | succ more =>
          rw [spin] at ended
          rw [spin, spin]
          rcases round_goes backend probe session 0 remaining c with
            ⟨last, goes⟩ | ⟨left, less, d, goes⟩
          · rw [goes, goes]
          · rw [goes] at ended
            rw [goes, goes]
            exact ih (by omega) left d ended

end Spin

namespace Terms

variable (terms : Terms) {σ : Type} (backend : Backend σ) (command session : String)
  (timeoutSecs : Nat) (outputPath : String) (c : Course σ)

/-- However often the process of an execution is probed without a pause, each probe finds nothing
and is over before the deadline. -/
def Stalls : Prop :=
  ∃ pid arrival, terms.Launched backend command session outputPath c pid arrival ∧
    ∀ rounds, ∃ launch probes,
      (terms.restless rounds command session timeoutSecs outputPath).talk backend c =
        launch :: probes ∧
      probes.length = rounds ∧
      ∀ x ∈ probes, IsIdle (probeText pid) session (arrival + timeoutSecs * 1000) x

/-- An execution without a pause comes to a result: so many rounds are enough, and more of them
change nothing. -/
def ComesTo (result : Result) : Prop :=
  ∃ rounds, ∀ more, rounds ≤ more →
    ((terms.restless more command session timeoutSecs outputPath).perform backend c).1 =
      .value result

variable {terms backend command session timeoutSecs outputPath c} {pid arrival rounds : Nat}

/-- What a wait settles is told by a probe that is not idle. -/
theorem Settles.not_idle {probe : String} {deadline now last : Nat} {said : List Exchange}
    {result : Result}
    (settles : terms.Settles session outputPath (Polls 0 probe session deadline now) said result
      last) : ¬ ∀ x ∈ said, IsIdle probe session deadline x := by
  intro idle
  cases settles with
  | late there =>
      obtain ⟨before, x, rfl, -, -, -, late⟩ := there.split
      obtain ⟨-, early⟩ := idle x (by simp)
      omega
  | @gone _ read _ _ reads =>
      obtain ⟨finds, -⟩ := idle read (by simp)
      exact reads.not_findsNothing finds

/-- With a process and a deadline that the clock shows, an execution without a pause comes to a
result, or all its rounds are idle. -/
theorem restless_settles
    (launched : terms.Launched backend command session outputPath c pid arrival)
    (reached : terms.clock.reaches arrival timeoutSecs)
    (calm : ∀ x ∈ (terms.restless rounds command session timeoutSecs outputPath).talk backend c,
      x.IsCalm) :
    ∃ launch rest,
      (terms.restless rounds command session timeoutSecs outputPath).talk backend c =
        launch :: rest ∧
      ((∃ result last,
        ((terms.restless rounds command session timeoutSecs outputPath).perform backend c).1 =
          .value result ∧
        terms.Settles session outputPath
          (Polls 0 (probeText pid) session (arrival + timeoutSecs * 1000) arrival) rest result
          last) ∨
      (((terms.restless rounds command session timeoutSecs outputPath).perform backend c).1 =
          .error .broken ∧
        rest.length = rounds ∧
        (∀ x ∈ rest, IsIdle (probeText pid) session (arrival + timeoutSecs * 1000) x) ∧
        rest.countP (fun x => x.began < x.ended) ≤ timeoutSecs * 1000)) := by
  rw [restless] at calm ⊢
  obtain ⟨out, d, said, done, rfl, -⟩ := execution_launched
    (fun probe session => spin probe session rounds) timeoutSecs launched
  obtain ⟨log, saidLater, doneLater⟩ := await_reached
    (fun probe session => spin probe session rounds) pid session outputPath reached
  rw [said, saidLater] at calm
  rw [said, done, saidLater, doneLater]
  have waiting : ∀ x ∈ (spin (probeText pid) session rounds (timeoutSecs * 1000)).talk backend
      { d with log := log }, x.IsCalm := by
    intro x mem
    refine calm x (List.mem_cons_of_mem _ ?_)
    rw [talk_bind]
    exact List.mem_append_left _ mem
  refine ⟨_, _, rfl, ?_⟩
  rcases spin_settles backend (probeText pid) session rounds (timeoutSecs * 1000) _ waiting with
    ⟨isGone, ending, polls⟩ | ⟨broken, length, idle, few⟩
  · obtain ⟨result, value, settles⟩ := terms.conclude_settles ending polls
      fun x mem => calm x (List.mem_cons_of_mem _ mem)
    exact .inl ⟨result, _, value, settles⟩
  · -- nothing follows rounds that are spent
    rw [talk_bind, perform_bind]
    simp only [broken, List.append_nil]
    exact .inr ⟨trivial, length, idle, few⟩

/-- A result that is there after some rounds is there after more. -/
theorem restless_stable {more : Nat} {result : Result} (enough : rounds ≤ more)
    (value : ((terms.restless rounds command session timeoutSecs outputPath).perform backend c).1 =
      .value result) :
    (terms.restless more command session timeoutSecs outputPath).perform backend c =
      (terms.restless rounds command session timeoutSecs outputPath).perform backend c := by
  rw [restless, execution, log_bind, request_bind] at value ⊢
  rw [restless, execution, log_bind, request_bind]
  simp only [perform] at value ⊢
  cases answer : (backend.call (.run (dispatchCommand command outputPath) (some session) .normal
      terms.dispatchLimit) { c with log := c.log.push ⟨.debug, .execution⟩ }).1 with
  | value out =>
      simp only [answer] at value ⊢
      cases known : extractPid? out.output with
      | none => rfl
      | some pid =>
          simp only [known, await, log_bind, perform] at value ⊢
          split at value
          · rename_i shown
            simp only [shown, if_pos, perform_bind] at value ⊢
            rw [spin_stable backend (probeCommand pid) session enough]
            intro broken
            rw [broken] at value
            cases value
          · cases value
  | error e => rfl
  | crash p => rfl

/-- Probes that take time do not go on before the deadline for ever. -/
theorem not_stalls
    (calm : ∀ rounds, ∀ x ∈ (terms.restless rounds command session timeoutSecs outputPath).talk
      backend c, x.IsCalm)
    (inTime : ¬ terms.Overflows backend command session timeoutSecs outputPath c)
    (slow : ∀ box now pid, 0 < (backend.respond box now (.probe (probeText pid) session)).1.delay) :
    ¬ terms.Stalls backend command session timeoutSecs outputPath c := by
  rintro ⟨pid, arrival, launched, idles⟩
  -- one round more than there are milliseconds
  obtain ⟨launch, probes, said, length, idle⟩ := idles (timeoutSecs * 1000 + 1)
  obtain ⟨launch', rest, said', ends⟩ := restless_settles launched (launched.reaches inTime)
    (calm (timeoutSecs * 1000 + 1))
  obtain ⟨rfl, rfl⟩ := List.cons.inj (said.symm.trans said')
  rcases ends with ⟨result, last, -, settles⟩ | ⟨-, -, -, few⟩
  · exact settles.not_idle idle
  · have all : probes.countP (fun x => x.began < x.ended) = probes.length := by
      rw [List.countP_eq_length]
      intro x mem
      have replies : Replied backend (fun asked _ reply =>
          ∀ pid, asked = .probe (probeText pid) session → 0 < reply.delay) c.box
          ((terms.restless (timeoutSecs * 1000 + 1) command session timeoutSecs outputPath).talk
            backend c) := by
        refine .of_forall (fun box now asked pid same => ?_) _ _
        subst same
        exact slow box now pid
      obtain ⟨reply, takes, hears⟩ := replies.exists_reply (talk_answered backend _ c) x
        (said ▸ List.mem_cons_of_mem _ mem)
      have asked : x.call = .probe (probeText pid) session := by
        obtain ⟨finds, -⟩ := idle x mem
        cases finds <;> rfl
      exact decide_eq_true ((idle x mem).began_lt hears (takes pid asked))
    omega

/-- Without a pause an execution comes to a result unless its deadline overflows the clock or it is
stalled. -/
theorem comesTo_iff
    (calm : ∀ rounds, ∀ x ∈ (terms.restless rounds command session timeoutSecs outputPath).talk
      backend c, x.IsCalm) :
    (∃ result, terms.ComesTo backend command session timeoutSecs outputPath c result) ↔
      ¬ terms.Overflows backend command session timeoutSecs outputPath c ∧
        ¬ terms.Stalls backend command session timeoutSecs outputPath c := by
  constructor
  · rintro ⟨result, rounds, enough⟩
    have value := enough rounds (Nat.le_refl _)
    have inTime : ¬ terms.Overflows backend command session timeoutSecs outputPath c := by
      intro overflows
      rw [restless, (execution_overflows _ _ _ _ _ _ _ _ overflows).1] at value
      cases value
    refine ⟨inTime, ?_⟩
    rintro ⟨pid, arrival, launched, idles⟩
    obtain ⟨launch, probes, said, -, idle⟩ := idles rounds
    obtain ⟨launch', rest, said', ends⟩ :=
      restless_settles launched (launched.reaches inTime) (calm rounds)
    obtain ⟨rfl, rfl⟩ := List.cons.inj (said.symm.trans said')
    rcases ends with ⟨_, _, -, settles⟩ | ⟨broken, -⟩
    · exact settles.not_idle idle
    · rw [broken] at value
      cases value
  · rintro ⟨inTime, moves⟩
    have stays {rounds : Nat} {result : Result}
        (value : ((terms.restless rounds command session timeoutSecs outputPath).perform backend
          c).1 = .value result) :
        terms.ComesTo backend command session timeoutSecs outputPath c result :=
      ⟨rounds, fun more enough => (congrArg Prod.fst (restless_stable enough value)).trans value⟩
    by_cases launched : ∃ pid arrival,
        terms.Launched backend command session outputPath c pid arrival
    · obtain ⟨pid, arrival, launched⟩ := launched
      by_contra never
      refine moves ⟨pid, arrival, launched, fun rounds => ?_⟩
      obtain ⟨launch, rest, said, ends⟩ :=
        restless_settles launched (launched.reaches inTime) (calm rounds)
      rcases ends with ⟨result, _, value, -⟩ | ⟨-, length, idle, -⟩
      · exact (never ⟨result, stays value⟩).elim
      · exact ⟨launch, rest, said, length, idle⟩
    · obtain ⟨result, value⟩ := execution_unlaunched _ _ _ _ _ _ _ _
        (fun pid arrival named => launched ⟨pid, arrival, named⟩) (calm 0)
      exact ⟨result, stays value⟩

end Terms

/-! ## Crashes -/

namespace Executor

section Crashes

variable (executor : Executor) {σ : Type} {backend : Backend σ} {command session : String}
  {timeoutSecs : Nat} {outputPath : String} {c : Course σ}

/-- With a pause an execution comes to a result unless its deadline overflows the clock. -/
theorem returns_iff
    (calm : ∀ x ∈ (executor.execution command session timeoutSecs outputPath).talk backend c,
      x.IsCalm) :
    (∃ result,
      (executor.execute backend command session timeoutSecs outputPath c).1 = .value result) ↔
      ¬ executor.Overflows backend command session timeoutSecs outputPath c := by
  constructor
  · rintro ⟨result, value⟩ overflows
    rw [execute, execution, (Terms.execution_overflows _ _ _ _ _ _ _ _ overflows).1] at value
    cases value
  · intro inTime
    by_cases launched : ∃ pid arrival,
        executor.Launched backend command session outputPath c pid arrival
    · obtain ⟨pid, arrival, launched⟩ := launched
      obtain ⟨result, value, -⟩ := executor.execution_proceeds backend command session timeoutSecs
        outputPath c calm (launched.arrives.symm ▸ launched.reaches inTime)
      exact ⟨result, value⟩
    · exact Terms.execution_unlaunched _ _ _ _ _ _ _ _
        (fun pid arrival named => launched ⟨pid, arrival, named⟩) calm

variable (backend command session timeoutSecs outputPath c)

/-- **Crashes.** With a sandbox that does not crash, an execution comes to a result, unless its
deadline overflows the clock. Then it crashes right after the launch. Without a pause between its
probes it crashes in the same way, and it comes to a result otherwise unless it is stalled, which
cannot be when probes take time. -/
theorem execution_ends_iff :
    ((∀ x ∈ (executor.execution command session timeoutSecs outputPath).talk backend c, x.IsCalm) →
      ((∃ result, (executor.execute backend command session timeoutSecs outputPath c).1 =
          .value result) ↔
        ¬ executor.Overflows backend command session timeoutSecs outputPath c) ∧
      (executor.Overflows backend command session timeoutSecs outputPath c →
        (executor.execute backend command session timeoutSecs outputPath c).1 =
          .crash (.message overflowText) ∧
        ∃ launch, (executor.execution command session timeoutSecs outputPath).talk backend c =
          [launch] ∧ launch.call = executor.launchCall command session outputPath)) ∧
    ((∀ rounds, ∀ x ∈ (executor.restless rounds command session timeoutSecs outputPath).talk backend
        c, x.IsCalm) →
      ((∃ result, executor.ComesTo backend command session timeoutSecs outputPath c result) ↔
        ¬ executor.Overflows backend command session timeoutSecs outputPath c ∧
          ¬ executor.Stalls backend command session timeoutSecs outputPath c) ∧
      (executor.Overflows backend command session timeoutSecs outputPath c → ∀ rounds,
        ((executor.restless rounds command session timeoutSecs outputPath).perform backend c).1 =
          .crash (.message overflowText) ∧
        ∃ launch,
          (executor.restless rounds command session timeoutSecs outputPath).talk backend c =
            [launch] ∧ launch.call = executor.launchCall command session outputPath) ∧
      (¬ executor.Overflows backend command session timeoutSecs outputPath c →
        (∀ box now pid, 0 < (backend.respond box now (.probe (probeText pid) session)).1.delay) →
        ¬ executor.Stalls backend command session timeoutSecs outputPath c)) := by
  have crashes {ε : Type} (wait : String → String → Nat → Routine ε Bool) :=
    executor.execution_overflows backend command session timeoutSecs outputPath c wait
  exact ⟨fun calm => ⟨executor.returns_iff calm, crashes executor.poll⟩, fun calm =>
    ⟨Terms.comesTo_iff calm, fun overflows rounds => crashes _ overflows, Terms.not_stalls calm⟩⟩

end Crashes

theorem hosting_calm (exit : Nat) (box : Unit) (now : Nat) (asked : Call) (p : Crash) :
    ((hosting exit).respond box now asked).1.ending ≠ .crash p := by
  cases asked <;> exact nofun

/-- A sandbox with a process that is always there, whose probes take no time. -/
def standstill : Backend Unit where
  id := "box"
  takesDirs := false
  respond _ _ asked :=
    match asked with
    | .run .. => ({ ending := .value { output := "[1] 5" }, delay := 20 }, ())
    | .probe .. => ({ ending := .value 0 }, ())
    | asked => ({ ending := .value asked.success }, ())

/-- No number of rounds without a pause tells that such a process is gone, or that the time is
up. -/
theorem spin_standstill (probe session : String) (rounds : Nat) {remaining : Nat}
    (time : remaining ≠ 0) (c : Course Unit) :
    ((spin probe session rounds remaining).perform standstill c).1 = .error .broken := by
  induction rounds generalizing c with
  | zero => rfl
  | succ rounds ih =>
      have left : remaining - ((standstill.callWithin (max remaining 0) (.probe probe session)
          c).2.now - c.now) = remaining := by
        show remaining - (c.now + 0 - c.now) = remaining
        omega
      rw [spin, round]
      simp only [perform]
      -- the probe finds the process there, at the instant at which it is made
      show ((if _ : _ = 0 then _ else Routine.sleep _ (spin probe session rounds _) :
        Routine Unfinished Bool).perform standstill _).1 = _
      simp only [left, dif_neg time, Nat.zero_min, Nat.sub_zero, perform]
      exact ih _

/-- The last timeout with which the execution of a command that is answered in the first second
comes to a result, with a pause and without, and the one after it. Without a pause, no number of
rounds is enough for a process that stays while no time passes. -/
theorem execution_ends_iff_hosting :
    (∃ result, (hourly.execute (hosting 20) "true" "s" (Clock.lastSecond - 3600) "/tmp/o"
      (.begin ())).1 = .value result) ∧
    (hourly.execute (hosting 20) "true" "s" (Clock.lastSecond - 3599) "/tmp/o" (.begin ())).1 =
      .crash (.message overflowText) ∧
    (∃ result, hourly.ComesTo (hosting 20) "true" "s" (Clock.lastSecond - 3600) "/tmp/o"
      (.begin ()) result) ∧
    hourly.Stalls standstill "true" "s" 10 "/tmp/o" (.begin ()) := by
  have calm : ∀ timeoutSecs, ∀ x ∈ (hourly.execution "true" "s" timeoutSecs "/tmp/o").talk
      (hosting 20) (.begin ()), x.IsCalm := fun _ => talk_isCalm (hosting_calm 20) _ _
  have ends (timeoutSecs : Nat) :=
    hourly.execution_ends_iff (hosting 20) "true" "s" timeoutSecs "/tmp/o" (.begin ())
  have inTime : ¬ hourly.Overflows (hosting 20) "true" "s" (Clock.lastSecond - 3600) "/tmp/o"
      (.begin ()) := by
    rintro ⟨pid, arrival, ⟨-, rfl⟩, beyond⟩
    exact absurd beyond (by decide)
  refine ⟨((ends _).1 (calm _)).1.mpr inTime, (((ends _).1 (calm _)).2 ?_).1, ?_, ?_⟩
  · exact ⟨5, 20, hosting_launched 20, by decide⟩
  · obtain ⟨iff, -, moves⟩ := (ends (Clock.lastSecond - 3600)).2 fun _ =>
      talk_isCalm (hosting_calm 20) _ _
    exact iff.mpr ⟨inTime, moves inTime fun _ _ _ => Nat.zero_lt_succ 299⟩
  · have quiet : ∀ box now asked p, (standstill.respond box now asked).1.ending ≠ .crash p := by
      intro box now asked p
      cases asked <;> exact nofun
    obtain ⟨iff, -, -⟩ := (hourly.execution_ends_iff standstill "true" "s" 10 "/tmp/o"
      (.begin ())).2 fun _ => talk_isCalm quiet _ _
    have launched : hourly.Launched standstill "true" "s" "/tmp/o" (.begin ()) 5 20 :=
      ⟨⟨{ output := "[1] 5" }, rfl, by decide +kernel⟩, rfl⟩
    have shown : ¬ hourly.Overflows standstill "true" "s" 10 "/tmp/o" (.begin ()) := by
      rintro ⟨pid, arrival, ⟨-, rfl⟩, beyond⟩
      exact absurd beyond (by decide)
    by_contra moves
    obtain ⟨result, rounds, enough⟩ := iff.mpr ⟨shown, moves⟩
    have value := enough rounds (Nat.le_refl _)
    obtain ⟨_, d, -, done, now, -⟩ := Terms.execution_launched
      (fun probe session => spin probe session rounds) 10 launched
    obtain ⟨_, -, doneLater⟩ := Terms.await_reached
      (fun probe session => spin probe session rounds) 5 "s" "/tmp/o"
      (by rw [now]; decide : hourly.clock.reaches d.now 10 = true)
    rw [Terms.restless, done, doneLater, perform_bind] at value
    simp only [spin_standstill (probeText 5) "s" rounds (by decide : 10 * 1000 ≠ 0)] at value
    cases value

/-- The settings take every timeout of 64 bits. With the longest one a command is launched, its
deadline cannot be told, and the execution crashes although the sandbox does not. -/
theorem longest_timeout_crashes :
    let config : HarnessConfig := { testTimeoutSecs := 2 ^ 64 - 1 }
    config.validate = .ok () ∧
    (∀ box now asked p, ((hosting 20).respond box now asked).1.ending ≠ .crash p) ∧
    (hourly.execute (hosting 20) "true" "s" config.testTimeoutSecs "/tmp/o" (.begin ())).1 =
      .crash (.message overflowText) := by
  refine ⟨?_, hosting_calm 20, ?_⟩
  · rfl
  · rfl

end Executor

end Execution

end AgentTrial
