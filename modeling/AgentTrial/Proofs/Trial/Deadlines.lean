import Mathlib.Algebra.Order.Floor.Div
import AgentTrial.Proofs.Routine.Success
import AgentTrial.Proofs.Trial.Classification

/-!
# Deadlines of executions

When the process of an execution is probed, how often, and until when, whatever the sandbox does: a
probe may take any time, hang, fail, crash, or tell anything.

* **Polling** — a round that goes on comes one pause nearer to the deadline, or reaches it
  (`Punctual.again`). So every polling is punctual (`poll_punctual`), by induction on the time that
  remains.
* **After the launch** — an execution that learns of its process polls it and then may collect the
  output (`execution_launched`), so it keeps the deadline (`execution_keeps_deadline`).
* **Completion** — with probes that are answered within a pause, a process that is gone by the
  deadline is not missed, and one that is there for a pause more is given up
  (`execution_hosts`).
-/

namespace AgentTrial.Execution

open Routine

namespace Executor

variable (executor : Executor)

/-! ## Polling -/

/-- What polling keeps to from an instant on, with its probes, how it ends, and the instant at which
it is over. -/
structure Punctual (probe session : String) (deadline now : Nat) (probes : List Exchange)
    (ending : Ending Empty Bool) (stopped : Nat) : Prop where
  /-- One process is probed, … -/
  asks : ∀ x ∈ probes, x.call = .probe probe session
  /-- … never after the deadline, … -/
  begins : ∀ x ∈ probes, x.began ≤ deadline
  /-- … and once more at most than there are pauses in the time that remains. -/
  few : ∀ pauses, deadline - now ≤ executor.pollInterval * pauses → probes.length ≤ pauses + 1
  /-- The polling is over with the last probe, … -/
  last : probes.getLast?.map (·.ended) = some stopped
  /-- … one pause after the deadline at the latest, … -/
  stopped_le : stopped ≤ deadline + executor.pollInterval
  /-- … and it gives up at the deadline at the earliest. -/
  patient : ending = .value false → deadline ≤ stopped

section Rounds

variable {executor} {probe session : String} {deadline now stopped : Nat} {x : Exchange}
  {rest : List Exchange} {ending : Ending Empty Bool}

/-- A round that is the last one. -/
theorem Punctual.single (asked : x.call = .probe probe session) (begins : x.began ≤ deadline)
    (inTime : x.ended ≤ deadline + executor.pollInterval)
    (patient : ending = .value false → deadline ≤ x.ended) :
    executor.Punctual probe session deadline now [x] ending x.ended where
  asks y mem := by rwa [List.mem_singleton.mp mem]
  begins y mem := by rwa [List.mem_singleton.mp mem]
  few pauses _ := by simp
  last := rfl
  stopped_le := inTime
  patient := patient

/-- A round that goes on: the pause after the probe uses up one of the pauses that remain, or ends
at the deadline. -/
theorem Punctual.again (asked : x.call = .probe probe session) (begins : x.began ≤ deadline)
    (later : now ≤ x.ended) (early : x.ended < deadline)
    (goes : executor.Punctual probe session deadline
      (min (x.ended + executor.pollInterval) deadline) rest ending stopped) :
    executor.Punctual probe session deadline now (x :: rest) ending stopped where
  asks y mem := by
    rcases List.mem_cons.mp mem with rfl | mem
    · exact asked
    · exact goes.asks y mem
  begins y mem := by
    rcases List.mem_cons.mp mem with rfl | mem
    · exact begins
    · exact goes.begins y mem
  few pauses enough := by
    cases pauses with
    | zero =>
        -- no time remains, so the first probe was not over before the deadline
        rw [Nat.mul_zero] at enough
        omega
    | succ pauses =>
        rw [Nat.mul_succ] at enough
        have fewer := goes.few pauses (by omega)
        simp only [List.length_cons]
        omega
  last := by
    have last := goes.last
    cases ends : rest.getLast? with
    | none =>
        rw [ends] at last
        cases last
    | some y =>
        rw [ends] at last
        rw [List.getLast?_cons, ends]
        exact last
  stopped_le := goes.stopped_le
  patient := goes.patient

end Rounds

/-- **Polling.** Polling is punctual with every sandbox. -/
theorem poll_punctual {σ : Type} (backend : Backend σ) (probe session : String) (remaining : Nat)
    (c : Course σ) :
    executor.Punctual probe session (c.now + remaining) c.now
      ((executor.poll probe session remaining).talk backend c)
      ((executor.poll probe session remaining).perform backend c).1
      ((executor.poll probe session remaining).perform backend c).2.now := by
  rw [poll_eq_round]
  obtain ⟨x, rest, last, said, done, asked, began, later, inTime, gone | late | again | crash⟩ :=
    round_cases backend executor.pollInterval probe session remaining
      (fun left _ => executor.poll probe session left) c
  all_goals
    have begins : x.began ≤ c.now + remaining := by omega
    have bound : x.ended ≤ c.now + remaining + executor.pollInterval := by
      unfold patience at inTime
      omega
    rw [said, done]
  · obtain ⟨-, rfl, value, ended⟩ := gone
    rw [value, ended]
    exact .single asked begins bound nofun
  · obtain ⟨-, late, rfl, -, ended⟩ := late
    rw [ended]
    exact .single asked begins bound fun _ => late
  · obtain ⟨-, early, left, less, d, pause, same, rfl, rfl⟩ := again
    have nearer := less executor.paced
    -- the deadline is the same in the next round
    have goes := poll_punctual backend probe session left d
    rw [same, pause] at goes
    exact .again asked begins later early goes
  · obtain ⟨p, -, rfl, value, ended⟩ := crash
    rw [value, ended]
    exact .single asked begins bound nofun
termination_by remaining

end Executor

/-! ## After the launch -/

namespace Terms

variable {terms : Terms} {σ ε : Type} {backend : Backend σ} {command session outputPath : String}
  {pid arrival : Nat} {c : Course σ}

/-- The launch is answered with a process, at an instant. -/
structure Launched (terms : Terms) (backend : Backend σ) (command session outputPath : String)
    (c : Course σ) (pid arrival : Nat) : Prop where
  named : ∃ out : CommandOutput,
    (backend.respond c.box c.now (terms.launchCall command session outputPath)).1.ending =
      .value out ∧ extractPid? out.output = some pid
  arrives : c.now +
    (backend.respond c.box c.now (terms.launchCall command session outputPath)).1.delay = arrival

/-- An execution that learns of its process goes on to wait for it. -/
theorem execution_launched (wait : String → String → Nat → Routine ε Bool) (timeoutSecs : Nat)
    (launched : terms.Launched backend command session outputPath c pid arrival) :
    ∃ out d,
      (terms.execution wait command session timeoutSecs outputPath).talk backend c =
        ⟨terms.launchCall command session outputPath, c.now, arrival, .value (some out)⟩ ::
          (terms.await wait pid session timeoutSecs outputPath).talk backend d ∧
      (terms.execution wait command session timeoutSecs outputPath).perform backend c =
        (terms.await wait pid session timeoutSecs outputPath).perform backend d ∧
      d.now = arrival ∧
      d.box = (backend.respond c.box c.now (terms.launchCall command session outputPath)).2 := by
  obtain ⟨⟨out, answer, known⟩, arrives⟩ := launched
  rw [execution, log_bind, request_bind]
  simp only [talk, perform, Backend.call, dispatchCommand]
  simp only [launchCall] at answer arrives ⊢
  simp only [answer, known, arrives]
  exact ⟨out, _, rfl, rfl, rfl, rfl⟩

/-- While the clock shows the deadline, a process is waited for, and then comes what the wait
tells. -/
theorem await_reached (wait : String → String → Nat → Routine ε Bool) (pid : Nat)
    (session outputPath : String) {timeoutSecs : Nat} {c : Course σ}
    (reached : terms.clock.reaches c.now timeoutSecs) :
    ∃ log,
      (terms.await wait pid session timeoutSecs outputPath).talk backend c =
        (wait (probeText pid) session (timeoutSecs * 1000) >>=
          terms.conclude session outputPath).talk backend { c with log := log } ∧
      (terms.await wait pid session timeoutSecs outputPath).perform backend c =
        (wait (probeText pid) session (timeoutSecs * 1000) >>=
          terms.conclude session outputPath).perform backend { c with log := log } := by
  rw [await, log_bind]
  simp only [talk, perform, reached, if_pos]
  exact ⟨_, rfl, rfl⟩

end Terms

namespace Executor

section Launched

variable {executor : Executor} {σ : Type} {backend : Backend σ}
  {command session outputPath : String} {timeoutSecs pid arrival : Nat} {c : Course σ}

/-- The output is collected in one call, at once. -/
theorem collect_asks :
    ∀ x ∈ (executor.collect session outputPath : Routine Empty Result).talk backend c,
      x.call = executor.collectCall session outputPath ∧ x.began = c.now := by
  rw [Terms.collect, request_bind]
  simp only [talk, Backend.call]
  intro x mem
  rcases List.mem_cons.mp mem with rfl | mem
  · exact ⟨rfl, rfl⟩
  · -- nothing is said after it
    cases answer : (backend.respond c.box c.now (.run (collectCommand outputPath) (some session)
        .normal executor.dispatchLimit)).1.ending with
    | value out =>
        simp only [answer] at mem
        cases passed : out.isSuccess with
        | true =>
            simp only [passed, if_pos] at mem
            exact absurd mem List.not_mem_nil
        | false =>
            simp only [passed] at mem
            exact absurd mem List.not_mem_nil
    | error e | crash p =>
        simp only [answer] at mem
        exact absurd mem List.not_mem_nil

/-- Collecting the output does not tell that the time is up. -/
theorem collect_ne_timedOut :
    ((executor.collect session outputPath : Routine Empty Result).perform backend c).1 ≠
      .value .timedOut := by
  intro timedOut
  have kind := congrArg (Ending.map Result.kind) timedOut
  rw [collect_kind] at kind
  cases answer : (backend.respond c.box c.now
      (executor.collectCall session outputPath)).1.ending.map CommandOutput.exitCode with
  | value code =>
      rw [answer] at kind
      by_cases success : code = 0
      · simp [success, Ending.map, Result.kind] at kind
      · simp [success, Ending.map, Result.kind] at kind
  | error e =>
      rw [answer] at kind
      simp [Ending.map, Result.kind] at kind
  | crash p =>
      rw [answer] at kind
      cases kind

/-- After the polling there is only the output to collect, … -/
theorem conclude_asks (gone : Bool) :
    ∀ x ∈ (executor.conclude session outputPath gone : Routine Empty Result).talk backend c,
      x.call = executor.collectCall session outputPath ∧ x.began = c.now := by
  cases gone with
  | false => exact fun x mem => absurd mem List.not_mem_nil
  | true =>
      simp only [Terms.conclude, if_pos, log_bind, talk]
      exact collect_asks

/-- … and if the time is up, nothing is collected. -/
theorem conclude_timedOut {gone : Bool}
    (timedOut :
      ((executor.conclude session outputPath gone : Routine Empty Result).perform backend c).1 =
        .value .timedOut) :
    gone = false ∧
      ((executor.conclude session outputPath gone : Routine Empty Result).perform backend c).2.now =
        c.now := by
  cases gone with
  | false => exact ⟨rfl, rfl⟩
  | true =>
      simp only [Terms.conclude, if_pos, log_bind, perform] at timedOut
      exact (collect_ne_timedOut timedOut).elim

/-- **After the launch.** An execution that learns of its process keeps the deadline, while the clock
shows it: the probes are punctual and so few, the output is collected when they are over, and the
time is up between the deadline and one pause after it. -/
theorem execution_keeps_deadline
    (launched : executor.Launched backend command session outputPath c pid arrival)
    (reached : executor.clock.reaches arrival timeoutSecs) :
    ∃ out probes ending stopped collecting,
      (executor.execution command session timeoutSecs outputPath).talk backend c =
        ⟨executor.launchCall command session outputPath, c.now, arrival, .value (some out)⟩ ::
          (probes ++ collecting) ∧
      executor.Punctual (probeText pid) session (arrival + timeoutSecs * 1000) arrival probes
        ending stopped ∧
      probes.length ≤ timeoutSecs * 1000 ⌈/⌉ executor.pollInterval + 1 ∧
      (∀ x ∈ collecting, x.call = executor.collectCall session outputPath ∧ x.began = stopped) ∧
      ((executor.execute backend command session timeoutSecs outputPath c).1 = .value .timedOut →
        (executor.execute backend command session timeoutSecs outputPath c).2.now = stopped ∧
          arrival + timeoutSecs * 1000 ≤ stopped ∧
          stopped ≤ arrival + timeoutSecs * 1000 + executor.pollInterval) := by
  obtain ⟨out, d, said, done, rfl, -⟩ := Terms.execution_launched executor.poll timeoutSecs launched
  obtain ⟨log, saidLater, doneLater⟩ := Terms.await_reached executor.poll pid session
    outputPath reached
  have punctual := executor.poll_punctual backend (probeText pid) session
    (timeoutSecs * 1000) { d with log := log }
  have covers : timeoutSecs * 1000 ≤
      executor.pollInterval * (timeoutSecs * 1000 ⌈/⌉ executor.pollInterval) :=
    le_smul_ceilDiv executor.paced
  have few := punctual.few (timeoutSecs * 1000 ⌈/⌉ executor.pollInterval) (by dsimp only; omega)
  rw [talk_bind] at saidLater
  rw [perform_bind] at doneLater
  refine ⟨out, _, _, _, _, said.trans (congrArg _ saidLater), punctual, few, ?_, ?_⟩
  · cases ending : ((executor.poll (probeText pid) session
        (timeoutSecs * 1000)).perform backend { d with log := log }).1 with
    | value gone => exact conclude_asks gone
    | error e => exact e.elim
    | crash p => exact fun x mem => absurd mem List.not_mem_nil
  · rw [execute, execution, done, doneLater]
    intro timedOut
    cases ending : ((executor.poll (probeText pid) session
        (timeoutSecs * 1000)).perform backend { d with log := log }).1 with
    | value gone =>
        simp only [ending] at timedOut ⊢
        obtain ⟨rfl, now⟩ := conclude_timedOut timedOut
        exact ⟨now, punctual.patient ending, punctual.stopped_le⟩
    | error e => exact e.elim
    | crash p =>
        rw [ending] at timedOut
        cases timedOut

end Launched

/-- A sandbox with a process that is there until an instant. -/
def hosting (exit : Nat) : Backend Unit where
  id := "box"
  takesDirs := false
  respond _ now asked :=
    match asked with
    | .run command .. =>
      let output := if command = collectCommand "/tmp/o" then "done" else "[1] 5"
      ({ ending := .value { output }, delay := 20 }, ())
    | .probe .. => ({ ending := .value (if now + 300 < exit then 0 else 1), delay := 300 }, ())
    | asked => ({ ending := .value asked.success }, ())

theorem hosting_launched (exit : Nat) :
    hourly.Launched (hosting exit) "true" "s" "/tmp/o" (.begin ()) 5 20 where
  named := ⟨{ output := "[1] 5" }, by rfl, by decide +kernel⟩
  arrives := rfl

theorem hosting_keeps_deadline :
    ∃ probes ending stopped, hourly.Punctual (probeText 5) "s" 10020 20 probes ending stopped ∧
      probes.length ≤ 11 ∧
      (hourly.execute (hosting 100000) "true" "s" 10 "/tmp/o" (.begin ())).1 = .value .timedOut ∧
      (hourly.execute (hosting 100000) "true" "s" 10 "/tmp/o" (.begin ())).2.now = stopped ∧
      10020 ≤ stopped ∧ stopped ≤ 11020 := by
  obtain ⟨_, probes, ending, stopped, _, -, punctual, few, -, late⟩ :=
    execution_keeps_deadline (hosting_launched 100000)
      (by decide : hourly.clock.reaches 20 10 = true)
  have timedOut : (hourly.execute (hosting 100000) "true" "s" 10 "/tmp/o" (.begin ())).1 =
      .value .timedOut := by decide +kernel
  exact ⟨probes, ending, stopped, punctual, few, timedOut, late timedOut⟩

/-! ## Completion -/

/-- How a sandbox replies that has a process until an instant: a probe of the process is answered
within a pause, with zero as long as the process is there when the answer is given; and the output
can be read. -/
def Hosts (executor : Executor) (pid : Nat) (session outputPath : String) (exit : Nat) :
    (asked : Call) → Nat → Reply asked.Answer → Prop
  | .probe command name, now, reply =>
    Call.probe command name = .probe (probeText pid) session →
      reply.delay ≤ executor.pollInterval ∧
      ∃ code, reply.ending = .value code ∧ (code = 0 ↔ now + reply.delay < exit)
  | .run command name mode limit, _, reply =>
    Call.run command name mode limit = executor.collectCall session outputPath →
      ∃ out, reply.ending = .value out ∧ out.exitCode = 0
  | _, _, _ => True

section Hosts

variable {executor : Executor} {pid exit deadline : Nat} {session outputPath : String}
  {x : Exchange} {reply : Reply x.call.Answer}

theorem Hosts.isCalm (hosts : executor.Hosts pid session outputPath exit x.call x.began reply)
    (hears : x.Hears reply)
    (asked : x.call = .probe (probeText pid) session ∨
      x.call = executor.collectCall session outputPath) : x.IsCalm := by
  intro p crash
  obtain ⟨call, began, ended, heard⟩ := x
  obtain ⟨answer, value⟩ : ∃ answer, reply.ending = .value answer := by
    rcases asked with rfl | rfl
    · obtain ⟨-, code, value, -⟩ := hosts rfl
      exact ⟨code, value⟩
    · obtain ⟨out, value, -⟩ := hosts rfl
      exact ⟨out, value⟩
  rcases hears.ofValue value with ⟨-, same⟩ | ⟨-, same⟩ <;> rw [same] at crash <;> cases crash

/-- Whoever finds nothing was answered before the process was gone. No probe is cut: each is waited
for as long as a pause. -/
theorem Hosts.lt_of_findsNothing
    (hosts : executor.Hosts pid session outputPath exit x.call x.began reply)
    (hears : x.Hears reply)
    (finds : FindsNothing (probeText pid) session (patience executor.pollInterval deadline) x) :
    x.ended < exit := by
  cases finds with
  | there =>
      obtain ⟨-, code, value, tells⟩ := hosts rfl
      rcases hears.ofValue value with ⟨ended, same⟩ | ⟨-, same⟩
      · cases same
        rw [ended]
        exact tells.mp rfl
      · cases same
  | failed =>
      obtain ⟨-, code, value, -⟩ := hosts rfl
      rcases hears.ofValue value with ⟨-, same⟩ | ⟨-, same⟩ <;> cases same
  | cut =>
      obtain ⟨quick, code, value, -⟩ := hosts rfl
      rcases hears.ofValue value with ⟨-, same⟩ | ⟨ended, -⟩
      · cases same
      · simp only [patience] at ended
        omega

/-- Whoever finds the process gone was answered when it was. -/
theorem Hosts.le_of_findsGone
    (hosts : executor.Hosts pid session outputPath exit x.call x.began reply)
    (hears : x.Hears reply)
    (finds : FindsGone (probeText pid) session (patience executor.pollInterval deadline) x) :
    exit ≤ x.ended := by
  obtain ⟨nonzero, -⟩ := finds
  obtain ⟨-, code, value, tells⟩ := hosts rfl
  rcases hears.ofValue value with ⟨ended, same⟩ | ⟨-, same⟩
  · cases same
    by_contra early
    refine nonzero (tells.mpr ?_)
    simp only at ended early ⊢
    omega
  · cases same

/-- The output is read. -/
theorem Hosts.printed {result : Result}
    (hosts : executor.Hosts pid session outputPath exit x.call x.began reply)
    (hears : x.Hears reply) (reads : executor.Reads session outputPath x result) :
    ∃ printed, x = ⟨executor.collectCall session outputPath, x.began, x.ended,
      .value (some printed)⟩ ∧ result = .completed printed.output := by
  cases reads with
  | printed => exact ⟨_, rfl, rfl⟩
  | unread failed =>
      obtain ⟨out, value, success⟩ := hosts rfl
      rcases hears.ofValue value with ⟨-, same⟩ | ⟨-, same⟩
      · cases same
        exact absurd success failed
      · cases same
  | unanswered =>
      obtain ⟨out, value, -⟩ := hosts rfl
      rcases hears.ofValue value with ⟨-, same⟩ | ⟨-, same⟩ <;> cases same

end Hosts

section Completion

variable {executor : Executor} {σ : Type} {backend : Backend σ}
  {command session outputPath : String} {timeoutSecs pid arrival e : Nat} {c : Course σ}

/-- By the deadline the last probe tells that the process is gone, and one pause after it no probe
could have told so before. -/
theorem poll_hosts {remaining : Nat}
    (shown : ∀ x ∈ (executor.poll (probeText pid) session remaining).talk backend c,
      ∃ reply, executor.Hosts pid session outputPath (c.now + e) x.call x.began reply ∧
        x.Hears reply) :
    ∃ gone, ((executor.poll (probeText pid) session remaining).perform backend c).1 =
        .value gone ∧
      (e ≤ remaining → gone = true) ∧
      (remaining + executor.pollInterval < e → gone = false) := by
  have punctual := executor.poll_punctual backend (probeText pid) session remaining c
  have calm : ∀ x ∈ (executor.poll (probeText pid) session remaining).talk backend c,
      x.IsCalm := by
    intro x mem
    obtain ⟨reply, hosts, hears⟩ := shown x mem
    exact hosts.isCalm hears (.inl (punctual.asks x mem))
  obtain ⟨gone, ending, polls⟩ := executor.poll_polls backend (probeText pid) session
    remaining c calm
  obtain ⟨before, x, probes, ended, -, decides⟩ := polls.split
  have bound := punctual.stopped_le
  rw [← ended] at bound
  obtain ⟨reply, hosts, hears⟩ := shown x (by rw [probes]; simp)
  refine ⟨gone, ending, ?_⟩
  cases gone with
  | true =>
      have exited := hosts.le_of_findsGone hears decides
      exact ⟨fun _ => rfl, fun tooLong => by omega⟩
  | false =>
      obtain ⟨finds, late⟩ := decides
      have there := hosts.lt_of_findsNothing hears finds
      exact ⟨fun inTime => by omega, fun _ => rfl⟩

theorem collect_hosts {exit : Nat}
    (shown : ∀ x ∈ (executor.collect session outputPath : Routine Empty Result).talk backend c,
      ∃ reply, executor.Hosts pid session outputPath exit x.call x.began reply ∧ x.Hears reply) :
    ∃ began ended printed,
      ⟨executor.collectCall session outputPath, began, ended, .value (some printed)⟩ ∈
        (executor.collect session outputPath : Routine Empty Result).talk backend c ∧
      ((executor.collect session outputPath : Routine Empty Result).perform backend c).1 =
        .value (.completed printed.output) := by
  have calm : ∀ x ∈ (executor.collect session outputPath : Routine Empty Result).talk backend c,
      x.IsCalm := by
    intro x mem
    obtain ⟨reply, hosts, hears⟩ := shown x mem
    exact hosts.isCalm hears (.inr (collect_asks x mem).1)
  obtain ⟨read, result, said, -, reads, value, -⟩ := executor.collect_reads calm
  have mem : read ∈ (executor.collect session outputPath : Routine Empty Result).talk backend c := by
    simp [said]
  obtain ⟨reply, hosts, hears⟩ := shown read mem
  obtain ⟨printed, whole, rfl⟩ := hosts.printed hears reads
  rw [whole] at mem
  exact ⟨read.began, read.ended, printed, mem, value⟩

/-- **Completion.** Take a process that is there for so long after its launch is answered. If the
sandbox shows it and its output, then it is collected when it is gone by the deadline, and given up
when it is there one pause after it. -/
theorem execution_hosts
    (launched : executor.Launched backend command session outputPath c pid arrival)
    (reached : executor.clock.reaches arrival timeoutSecs)
    (hosts : Replied backend (executor.Hosts pid session outputPath (arrival + e)) c.box
      ((executor.execution command session timeoutSecs outputPath).talk backend c)) :
    (e ≤ timeoutSecs * 1000 → ∃ began ended printed,
      ⟨executor.collectCall session outputPath, began, ended, .value (some printed)⟩ ∈
        (executor.execution command session timeoutSecs outputPath).talk backend c ∧
      (executor.execute backend command session timeoutSecs outputPath c).1 =
        .value (.completed printed.output)) ∧
    (timeoutSecs * 1000 + executor.pollInterval < e →
      (executor.execute backend command session timeoutSecs outputPath c).1 = .value .timedOut) := by
  obtain ⟨out, d, said, done, rfl, box⟩ :=
    Terms.execution_launched executor.poll timeoutSecs launched
  obtain ⟨log, saidLater, doneLater⟩ := Terms.await_reached executor.poll pid session
    outputPath reached
  -- what is heard after the launch is what such a sandbox replies
  have shown : ∀ x ∈
      (executor.await executor.poll pid session timeoutSecs outputPath).talk backend d, ∃ reply,
        executor.Hosts pid session outputPath (d.now + e) x.call x.began reply ∧
        x.Hears reply := by
    rw [execution, said] at hosts
    cases hosts with
    | told _ hosts =>
        simp only [← box] at hosts
        exact hosts.exists_reply (talk_answered backend _ d)
  rw [execute, execution, said, done]
  rw [saidLater] at shown ⊢
  rw [doneLater]
  obtain ⟨polling, after⟩ := forall_talk_bind shown
  obtain ⟨gone, ending, inTime, tooLong⟩ := poll_hosts polling
  replace after := after gone ending
  rw [talk_bind, perform_bind]
  simp only [ending]
  cases gone with
  | true =>
      simp only [Terms.conclude, if_pos, log_bind, talk, perform] at after ⊢
      obtain ⟨began, ended, printed, mem, value⟩ := collect_hosts after
      refine ⟨fun _ => ⟨began, ended, printed, ?_, value⟩, fun late => ?_⟩
      · exact List.mem_cons_of_mem _ (List.mem_append_right _ mem)
      · cases tooLong late
  | false =>
      refine ⟨fun early => ?_, fun _ => rfl⟩
      cases inTime early

end Completion

theorem hosting_hosts (e : Nat) (said : List Exchange) :
    Replied (hosting (20 + e)) (hourly.Hosts 5 "s" "/tmp/o" (20 + e)) () said := by
  refine .of_forall (fun _ now asked => ?_) () said
  cases asked with
  | probe command name =>
      intro _
      have quick : (300 : Nat) ≤ 1000 := by omega
      refine ⟨quick, _, rfl, ?_⟩
      by_cases there : now + 300 < 20 + e
      · simp [hosting, there]
      · simp [hosting, there]
  | run => exact fun _ => ⟨_, rfl, rfl⟩
  | _ => trivial

/-- A process that is gone at the deadline is collected, one that is there just over a pause later
is given up. -/
theorem hosting_decided :
    (∃ printed : CommandOutput,
      (hourly.execute (hosting 10020) "true" "s" 10 "/tmp/o" (.begin ())).1 =
        .value (.completed printed.output)) ∧
    (hourly.execute (hosting 11021) "true" "s" 10 "/tmp/o" (.begin ())).1 = .value .timedOut := by
  have reached : hourly.clock.reaches 20 10 := by decide
  have gone := execution_hosts (e := 10000) (hosting_launched 10020) reached
    (hosting_hosts 10000 _)
  have there := execution_hosts (e := 11001) (hosting_launched 11021) reached
    (hosting_hosts 11001 _)
  obtain ⟨_, _, printed, -, value⟩ := gone.1 (by decide)
  exact ⟨⟨printed, value⟩, there.2 (by decide)⟩

end Executor

end AgentTrial.Execution
