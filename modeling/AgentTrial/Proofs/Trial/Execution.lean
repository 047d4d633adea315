import AgentTrial.Proofs.Routine.Answers
import AgentTrial.Proofs.Trial.Milestones

/-!
# The conversation of an execution

A command is launched; if the answer names a process, it is probed until it is gone or the deadline
has passed; if it is gone, its output is collected.

* **Words** — the texts of the three commands, written out (`Terms.launchCall`, `probeText`,
  `Terms.collectCall`).
* **Probes** — a round of waiting ends it or comes nearer to the deadline (`round_cases`), so polling
  keeps to its deadline (`poll_polls`): the induction is on the time that remains, and what carries
  it is that the deadline, which is the time and what remains of it, does not move.
* **Whole** — an execution goes the one way there is (`execution_runs`), as long as the clock can
  show its deadline.
-/

namespace AgentTrial.Execution

open Routine

/-- The stage that a result is a failure of, if it is one. -/
def Result.fate : Result → Option Stage
  | .completed _ => none
  | .timedOut => some .testExecuting
  | .dispatchError _ => some .testExecuting

/-- A probe that is answered in time, and finds its process gone. Each probe is waited for up to an
instant that `patience` tells. -/
inductive FindsGone (probe session : String) (patience : Nat → Nat) : Exchange → Prop where
  | mk {began ended : Nat} {code : Int} (nonzero : code ≠ 0) (inTime : ended ≤ patience began) :
      FindsGone probe session patience ⟨.probe probe session, began, ended, .value (some code)⟩

/-- A probe that does not: it finds its process there, it fails, or it is cut. -/
inductive FindsNothing (probe session : String) (patience : Nat → Nat) : Exchange → Prop where
  | there {began ended : Nat} (inTime : ended ≤ patience began) :
      FindsNothing probe session patience ⟨.probe probe session, began, ended, .value (some (0 : Int))⟩
  | failed {began ended : Nat} {e : SandboxError} (inTime : ended ≤ patience began) :
      FindsNothing probe session patience ⟨.probe probe session, began, ended, .error e⟩
  | cut {began : Nat} :
      FindsNothing probe session patience
        ⟨.probe probe session, began, patience began, .value none⟩

section Finds

variable {probe session : String} {patience : Nat → Nat} {began ended : Nat} {sign : Sign}
  {heard : Ending SandboxError (Option Int)}

theorem FindsGone.ofSign (told : Sign.of heard = .ok .gone) (inTime : ended ≤ patience began) :
    FindsGone probe session patience ⟨.probe probe session, began, ended, heard⟩ := by
  cases heard with
  | value answer =>
      cases answer with
      | none => cases told
      | some code =>
          refine .mk ?_ inTime
          rintro rfl
          cases told
  | error e => cases told
  | crash p => cases told

theorem FindsNothing.ofSign (told : Sign.of heard = .ok sign) (there : sign ≠ .gone)
    (inTime : ended ≤ patience began) (cut : heard = .value none → ended = patience began) :
    FindsNothing probe session patience ⟨.probe probe session, began, ended, heard⟩ := by
  cases heard with
  | value answer =>
      cases answer with
      | none =>
          rw [cut rfl]
          exact .cut
      | some code =>
          by_cases zero : code = 0
          · subst zero
            exact .there inTime
          · simp only [Sign.of, if_neg zero, Except.ok.injEq] at told
            exact absurd told.symm there
  | error e => exact .failed inTime
  | crash p => cases told

theorem FindsGone.tells {x : Exchange} (h : FindsGone probe session patience x) :
    x.Tells probe session .gone := by
  obtain ⟨nonzero, -⟩ := h
  exact ⟨_, _, _, rfl, by simp [Sign.of, nonzero]⟩

theorem FindsNothing.tells {x : Exchange} (h : FindsNothing probe session patience x) :
    ∃ sign, sign ≠ .gone ∧ x.Tells probe session sign := by
  cases h with
  | there => exact ⟨.alive, nofun, _, _, _, rfl, rfl⟩
  | failed => exact ⟨.unclear, nofun, _, _, _, rfl, rfl⟩
  | cut => exact ⟨.unclear, nofun, _, _, _, rfl, rfl⟩

end Finds

/-! ## Words -/

/-- The text of a probe of a process. -/
def probeText (pid : Nat) : String :=
  "kill -0 " ++ toString pid ++
    " 2>/dev/null && ! grep -qs '^State:[[:space:]]*Z' /proc/" ++ toString pid ++ "/status"

theorem probeCommand_eq (pid : Nat) : probeCommand pid = probeText pid := rfl

namespace Terms

variable (terms : Terms)

/-- The call that launches a command, with all its output in a file. -/
def launchCall (command session outputPath : String) : Call :=
  .run ("nohup sh -c " ++ Shell.quote command ++ " < /dev/null > " ++ Shell.quote outputPath ++
    " 2>&1 & echo \"[1] $!\"") (some session) .normal terms.dispatchLimit

/-- The call that collects the output. -/
def collectCall (session outputPath : String) : Call :=
  .run ("cat " ++ Shell.quote outputPath) (some session) .normal terms.dispatchLimit

end Terms

/-! ## Probes -/

theorem log_bind {ε α : Type} (level : Log.Level) (source : Log.Source)
    (next : Unit → Routine ε α) :
    Routine.log level source >>= next = .note ⟨level, source⟩ (next ()) := rfl

/-- A reason to log changes nothing but the log. -/
theorem logIf_bind {σ ε α : Type} (backend : Backend σ) (reason : Bool) (level : Log.Level)
    (source : Log.Source) (next : Unit → Routine ε α) (c : Course σ) :
    ∃ log,
      (Routine.logIf reason level source >>= next).talk backend c =
        (next ()).talk backend { c with log := log } ∧
      (Routine.logIf reason level source >>= next).perform backend c =
        (next ()).perform backend { c with log := log } := by
  cases reason with
  | true => exact ⟨c.log.push ⟨level, source⟩, rfl, rfl⟩
  | false => exact ⟨c.log, rfl, rfl⟩

/-- A call whose errors are values, and what follows. -/
theorem request_bind {ε β : Type} (asked : Call)
    (next : Except SandboxError asked.Answer → Routine ε β) :
    Routine.request asked >>= next = .call asked fun
      | .value a => next (.ok a)
      | .error e => next (.error e)
      | .crash p => .crash p := by
  refine congrArg (Routine.call asked) (funext fun ending => ?_)
  cases ending <;> rfl

/-- The instant until which a probe is waited for: the deadline, and one pause at least. -/
def patience (pause deadline began : Nat) : Nat := began + max (deadline - began) pause

/-- What a round of waiting comes to: the process is gone, or the time is up, or it goes on with less
to go and the same deadline; or the probe crashes. -/
theorem round_cases {σ ε : Type} (backend : Backend σ) (pause : Nat) (probe session : String)
    (remaining : Nat) (again : (left : Nat) → (0 < pause → left < remaining) → Routine ε Bool)
    (c : Course σ) :
    ∃ x rest last,
      (round pause probe session remaining again).talk backend c = x :: rest ∧
      (round pause probe session remaining again).perform backend c = last ∧
      x.call = .probe probe session ∧ x.began = c.now ∧ c.now ≤ x.ended ∧
      x.ended ≤ patience pause (c.now + remaining) c.now ∧
      ((FindsGone probe session (patience pause (c.now + remaining)) x ∧
          rest = [] ∧ last.1 = .value true ∧ last.2.now = x.ended) ∨
        (FindsNothing probe session (patience pause (c.now + remaining)) x ∧
          c.now + remaining ≤ x.ended ∧ rest = [] ∧ last.1 = .value false ∧ last.2.now = x.ended) ∨
        (FindsNothing probe session (patience pause (c.now + remaining)) x ∧
          x.ended < c.now + remaining ∧ ∃ left less d,
          d.now = min (x.ended + pause) (c.now + remaining) ∧
          d.now + left = c.now + remaining ∧
          rest = (again left less).talk backend d ∧ last = (again left less).perform backend d) ∨
        (∃ p, x.heard = .crash p ∧ rest = [] ∧ last.1 = .crash p ∧ last.2.now = x.ended)) := by
  have later := callWithin_now_le backend (max remaining pause) (.probe probe session) c
  have inTime := callWithin_now_le_limit backend (max remaining pause) (.probe probe session) c
  have cut := callWithin_unheard backend (max remaining pause) (.probe probe session) c
  have bound : patience pause (c.now + remaining) c.now = c.now + max remaining pause := by
    unfold patience
    omega
  rw [← bound] at inTime cut
  unfold round
  simp only [talk, perform]
  cases h : backend.callWithin (max remaining pause) (.probe probe session) c with
  | mk ending d =>
      rw [h] at later inTime cut
      simp only at later ⊢
      cases told : Sign.of ending with
      | error p =>
          -- anything but a crash is a sign
          cases ending with
          | crash q =>
              obtain rfl : q = p := Except.error.inj told
              exact ⟨_, _, _, rfl, rfl, rfl, rfl, later, inTime,
                .inr (.inr (.inr ⟨q, rfl, rfl, rfl, rfl⟩))⟩
          | value answer => cases answer <;> cases told
          | error e => cases told
      | ok sign =>
          by_cases there : sign = .gone
          · subst there
            exact ⟨_, _, _, rfl, rfl, rfl, rfl, later, inTime,
              .inl ⟨.ofSign told inTime, rfl, rfl, rfl⟩⟩
          · have nothing : FindsNothing probe session _ ⟨_, c.now, d.now, ending⟩ :=
              .ofSign told there inTime cut
            obtain ⟨log, said, done⟩ := logIf_bind backend (sign = .unclear) .warn .execution
              (fun _ => if spent : remaining - (d.now - c.now) = 0 then _ else _) d
            simp only
            rw [said, done]
            refine ⟨_, _, _, rfl, rfl, rfl, rfl, later, inTime, .inr ?_⟩
            by_cases spent : remaining - (d.now - c.now) = 0
            · -- no time is left: this was the last probe
              rw [dif_pos spent]
              exact .inl ⟨nothing, by dsimp only; omega, rfl, rfl, rfl⟩
            · rw [dif_neg spent]
              dsimp only [talk, perform]
              -- the pause is part of the time that remains, so the deadline stays where it is
              exact .inr (.inl ⟨nothing, by omega, _, _, _, by dsimp only; omega,
                by dsimp only; omega, rfl, rfl⟩)

/-- How waiting may go from an instant on, whether the process is gone in the end, and the instant at
which that is known. The last probe is the first that finds the process gone or ends at the deadline
or later. -/
inductive Polls (pause : Nat) (probe session : String) (deadline : Nat) :
    Nat → List Exchange → Bool → Nat → Prop where
  | gone {x : Exchange} (finds : FindsGone probe session (patience pause deadline) x) :
      Polls pause probe session deadline x.began [x] true x.ended
  | late {x : Exchange} (finds : FindsNothing probe session (patience pause deadline) x)
      (late : deadline ≤ x.ended) :
      Polls pause probe session deadline x.began [x] false x.ended
  | again {x : Exchange} {rest : List Exchange} {isGone : Bool} {last : Nat}
      (finds : FindsNothing probe session (patience pause deadline) x) (early : x.ended < deadline)
      (later : Polls pause probe session deadline (min (x.ended + pause) deadline) rest isGone
        last) :
      Polls pause probe session deadline x.began (x :: rest) isGone last

theorem Polls.awaits {pause : Nat} {probe session : String} {deadline now last : Nat}
    {talk : List Exchange} {isGone : Bool}
    (h : Polls pause probe session deadline now talk isGone last) :
    Awaits probe session deadline talk isGone := by
  induction h with
  | gone finds => exact .gone finds.tells
  | late finds late =>
      obtain ⟨sign, there, tells⟩ := finds.tells
      exact .late tells there late
  | again finds early _ ih =>
      obtain ⟨sign, there, tells⟩ := finds.tells
      exact .again tells there early ih

namespace Executor

variable (executor : Executor)

/-- Polling goes on in rounds. -/
theorem poll_eq_round (probe session : String) (remaining : Nat) :
    executor.poll probe session remaining =
      round executor.pollInterval probe session remaining fun left _ =>
        executor.poll probe session left := by
  rw [poll]

/-- **Probes.** Polling keeps to its deadline, and it tells whether the process is gone. -/
theorem poll_polls {σ : Type} (backend : Backend σ) (probe session : String) (remaining : Nat)
    (c : Course σ)
    (calm : ∀ x ∈ (executor.poll probe session remaining).talk backend c, x.IsCalm) :
    ∃ isGone, ((executor.poll probe session remaining).perform backend c).1 = .value isGone ∧
      Polls executor.pollInterval probe session (c.now + remaining) c.now
        ((executor.poll probe session remaining).talk backend c) isGone
        ((executor.poll probe session remaining).perform backend c).2.now := by
  rw [poll_eq_round] at calm ⊢
  obtain ⟨x, rest, last, said, done, -, began, -, -, gone | late | again | ⟨p, crash, -⟩⟩ :=
    round_cases backend executor.pollInterval probe session remaining
      (fun left _ => executor.poll probe session left) c
  · obtain ⟨finds, rfl, value, ended⟩ := gone
    rw [said, done, value, ended, ← began]
    rw [← began] at finds
    exact ⟨true, rfl, .gone finds⟩
  · obtain ⟨finds, late, rfl, value, ended⟩ := late
    rw [said, done, value, ended, ← began]
    rw [← began] at finds late
    exact ⟨false, rfl, .late finds late⟩
  · obtain ⟨finds, early, left, less, d, pause, same, rfl, rfl⟩ := again
    have nearer := less executor.paced
    rw [said] at calm ⊢
    rw [done]
    obtain ⟨isGone, value, polls⟩ := poll_polls backend probe session left d
      fun x mem => calm x (List.mem_cons_of_mem _ mem)
    rw [same, pause] at polls
    rw [← began] at finds early polls ⊢
    exact ⟨isGone, value, .again finds early polls⟩
  · -- a calm conversation hears of no crash
    exact (calm x (said ▸ List.mem_cons_self) p crash).elim
termination_by remaining

end Executor

/-! ## Whole -/

namespace Terms

variable (terms : Terms)

/-- What an execution waits for once its process is known: that the process is gone, by the
deadline, and then its output. -/
def afterLaunch (pid : Nat) (session : String) (deadline : Nat) (outputPath : String) :
    List Milestone :=
  [.await .testExecuting (probeText pid) session deadline,
    .call .testExecuting (terms.collectCall session outputPath) (·.isSuccess)]

/-- How an execution may go, and the stage it fails in if it does. The deadline counts from the
answer to the launch. -/
inductive Runs (command session : String) (timeoutSecs : Nat) (outputPath : String) :
    List Exchange → Option Stage → Prop where
  | unlaunched {began ended : Nat} {heard : Ending SandboxError (Option CommandOutput)}
      (unknown : ∀ out : CommandOutput, heard = .value (some out) → extractPid? out.output = none) :
      Runs command session timeoutSecs outputPath
        [⟨terms.launchCall command session outputPath, began, ended, heard⟩]
        (some .testExecuting)
  | launched {began ended pid : Nat} {out : CommandOutput} {rest : List Exchange}
      {fate : Option Stage} (known : extractPid? out.output = some pid)
      (later : Walk (terms.afterLaunch pid session (ended + timeoutSecs * 1000) outputPath) rest
        fate) :
      Runs command session timeoutSecs outputPath
        (⟨terms.launchCall command session outputPath, began, ended, .value (some out)⟩ :: rest)
        fate

section Unique

variable {terms} {command session outputPath : String} {timeoutSecs pid deadline : Nat}
  {talk talk' : List Exchange} {fate fate' : Option Stage}

/-- A process is gone or it is not, and its output is collected or it is not. -/
theorem afterLaunch_unique
    (h : Walk (terms.afterLaunch pid session deadline outputPath) talk fate)
    (h' : Walk (terms.afterLaunch pid session deadline outputPath) talk' fate')
    (same : talk = talk') : fate = fate' := by
  cases h with
  | pass here later =>
      cases h' with
      | pass here' later' =>
          obtain rfl := here.awaits.unique here'.awaits same
          refine (Walk.unique_whole (by simp [Milestone.isFixed]) later later' ?_)
          exact List.append_cancel_left same
      -- one of the waits found the process gone, so the other cannot have missed it
      | miss here' =>
          obtain ⟨x, mem, gone⟩ := here.awaits.exists_gone
          exact (here'.awaits.forall_there x (same ▸ List.mem_append_left _ mem) gone).elim
  | miss here =>
      cases h' with
      | pass here' later' =>
          obtain ⟨x, mem, gone⟩ := here'.awaits.exists_gone
          exact (here.awaits.forall_there x (same ▸ List.mem_append_left _ mem) gone).elim
      | miss here' => rfl

/-- What is said in an execution tells how far it went. -/
theorem Runs.unique (h : terms.Runs command session timeoutSecs outputPath talk fate)
    (h' : terms.Runs command session timeoutSecs outputPath talk' fate')
    (same : talk = talk') : fate = fate' := by
  cases h with
  | unlaunched unknown =>
      cases h' with
      | unlaunched => rfl
      -- the answer names a process or it does not
      | launched known' =>
          cases same
          rw [unknown _ rfl] at known'
          cases known'
  | launched known later =>
      cases h' with
      | unlaunched unknown' =>
          cases same
          rw [unknown' _ rfl] at known
          cases known
      | launched known' later' =>
          cases same
          obtain rfl : _ = _ := Option.some.inj (known.symm.trans known')
          exact afterLaunch_unique later later' rfl

end Unique

/-- The calls of an execution that makes so many probes. -/
def calls (command session outputPath : String) (pid probes : Nat) : List Call :=
  terms.launchCall command session outputPath ::
    (List.replicate probes (.probe (probeText pid) session) ++
      [terms.collectCall session outputPath])

/-- An execution makes its calls in their order, and all of them unless it fails. -/
theorem Runs.calls {terms : Terms} {command session outputPath : String} {timeoutSecs : Nat}
    {talk : List Exchange} {fate : Option Stage}
    (h : terms.Runs command session timeoutSecs outputPath talk fate) :
    ∃ pid probes, talk.map (·.call) <+: terms.calls command session outputPath pid probes ∧
      (fate = none →
        talk.map (·.call) = terms.calls command session outputPath pid probes) := by
  cases h with
  | unlaunched unknown => exact ⟨0, 0, List.prefix_append [_] _, fun whole => by cases whole⟩
  | @launched _ _ pid _ rest _ known later =>
      cases later with
      | @pass _ _ probes last _ here later =>
          refine ⟨pid, probes.length, ?_, fun whole => ?_⟩
          · rw [List.map_cons, List.map_append, here.awaits.calls, Terms.calls,
              List.prefix_cons_inj, List.prefix_append_right_inj]
            exact later.calls_prefix (by simp [Milestone.isFixed])
          · subst whole
            rw [List.map_cons, List.map_append, here.awaits.calls, Terms.calls,
              later.calls_eq (by simp [Milestone.isFixed])]
            rfl
      | miss here =>
          refine ⟨pid, rest.length, ?_, fun whole => by cases whole⟩
          rw [List.map_cons, here.awaits.calls, Terms.calls, List.prefix_cons_inj]
          exact List.prefix_append _ _

/-- What the answer to the call that collects the output comes to. -/
inductive Reads (session outputPath : String) : Exchange → Result → Prop where
  | printed {began ended : Nat} {out : CommandOutput} (success : out.exitCode = 0) :
      Reads session outputPath
        ⟨terms.collectCall session outputPath, began, ended, .value (some out)⟩
        (.completed out.output)
  | unread {began ended : Nat} {out : CommandOutput} (failed : out.exitCode ≠ 0) :
      Reads session outputPath
        ⟨terms.collectCall session outputPath, began, ended, .value (some out)⟩
        (.dispatchError
          s!"failed to read {outputPath} (exit {out.exitCode}): {Text.trim out.stderr}")
  | unanswered {began ended : Nat} {e : SandboxError} :
      Reads session outputPath
        ⟨terms.collectCall session outputPath, began, ended, .error e⟩
        (.dispatchError s!"failed to read {outputPath}: {e.text}")

/-- How a wait for a process goes on, by how it ended. -/
inductive Settles (session outputPath : String) (waited : List Exchange → Bool → Nat → Prop) :
    List Exchange → Result → Nat → Prop where
  | late {probes : List Exchange} {last : Nat} (there : waited probes false last) :
      Settles session outputPath waited probes .timedOut last
  | gone {probes : List Exchange} {read : Exchange} {result : Result}
      (gone : waited probes true read.began) (reads : terms.Reads session outputPath read result) :
      Settles session outputPath waited (probes ++ [read]) result read.ended

/-- How an execution may go that waits with a pause, what it comes to, and when. The deadline counts
from the answer to the launch. -/
inductive Proceeds (pause : Nat) (command session : String) (timeoutSecs : Nat)
    (outputPath : String) : List Exchange → Result → Nat → Prop where
  | unlaunched {began ended : Nat} {e : SandboxError} :
      Proceeds pause command session timeoutSecs outputPath
        [⟨terms.launchCall command session outputPath, began, ended, .error e⟩]
        (.dispatchError s!"dispatch failed: {e.text}") ended
  | unnamed {began ended : Nat} {out : CommandOutput} (unknown : extractPid? out.output = none) :
      Proceeds pause command session timeoutSecs outputPath
        [⟨terms.launchCall command session outputPath, began, ended, .value (some out)⟩]
        (.dispatchError s!"could not extract PID from: {Text.trim out.output}") ended
  | launched {began ended last pid : Nat} {out : CommandOutput} {rest : List Exchange}
      {result : Result} (known : extractPid? out.output = some pid)
      (settles : terms.Settles session outputPath
        (Polls pause (probeText pid) session (ended + timeoutSecs * 1000) ended) rest result last) :
      Proceeds pause command session timeoutSecs outputPath
        (⟨terms.launchCall command session outputPath, began, ended, .value (some out)⟩ :: rest)
        result last

section Settles

variable {σ ε : Type} {backend : Backend σ} {session outputPath : String} {c : Course σ}

/-- The output of a process that is gone is collected in one call. -/
theorem collect_reads
    (calm : ∀ x ∈ (terms.collect session outputPath : Routine ε Result).talk backend c, x.IsCalm) :
    ∃ read result, (terms.collect session outputPath : Routine ε Result).talk backend c = [read] ∧
      read.began = c.now ∧ terms.Reads session outputPath read result ∧
      ((terms.collect session outputPath : Routine ε Result).perform backend c).1 =
        .value result ∧
      ((terms.collect session outputPath : Routine ε Result).perform backend c).2.now =
        read.ended := by
  rw [collect, request_bind] at calm ⊢
  simp only [talk, perform] at calm ⊢
  cases answer : backend.call (.run (collectCommand outputPath) (some session) .normal
      terms.dispatchLimit) c with
  | mk ending d =>
      simp only [answer] at calm ⊢
      cases ending with
      | value out =>
          by_cases success : out.exitCode = 0
          · have passed : out.isSuccess = true := by simp [CommandOutput.isSuccess, success]
            simp only [passed, if_pos]
            exact ⟨_, _, rfl, rfl, .printed success, rfl, rfl⟩
          · have failed : out.isSuccess = false := by simp [CommandOutput.isSuccess, success]
            simp only [failed]
            exact ⟨_, _, rfl, rfl, .unread success, rfl, rfl⟩
      | error e => exact ⟨_, _, rfl, rfl, .unanswered, rfl, rfl⟩
      | crash p => exact (calm _ List.mem_cons_self p rfl).elim

/-- What follows a wait for a process, however it is waited for. -/
theorem conclude_settles {waiting : Routine ε Bool} {waited : List Exchange → Bool → Nat → Prop}
    {isGone : Bool} (ending : (waiting.perform backend c).1 = .value isGone)
    (wait : waited (waiting.talk backend c) isGone (waiting.perform backend c).2.now)
    (calm : ∀ x ∈ (waiting >>= terms.conclude session outputPath).talk backend c, x.IsCalm) :
    ∃ result,
      ((waiting >>= terms.conclude session outputPath).perform backend c).1 = .value result ∧
      terms.Settles session outputPath waited
        ((waiting >>= terms.conclude session outputPath).talk backend c) result
        ((waiting >>= terms.conclude session outputPath).perform backend c).2.now := by
  rw [talk_bind] at calm ⊢
  rw [perform_bind]
  simp only [ending] at calm ⊢
  cases isGone with
  | true =>
      simp only [conclude, if_pos, log_bind, talk, perform] at calm ⊢
      obtain ⟨read, result, said, began, reads, value, ended⟩ := terms.collect_reads
        fun x mem => calm x (List.mem_append_right _ mem)
      refine ⟨result, value, ?_⟩
      rw [said, ended]
      exact .gone (began ▸ wait) reads
  -- the deadline has passed: nothing is collected
  | false =>
      refine ⟨.timedOut, rfl, ?_⟩
      rw [show (terms.conclude session outputPath false : Routine ε Result) =
        .ended (.value .timedOut) from rfl]
      simp only [talk, perform, List.append_nil]
      exact .late wait

end Settles

/-- The launch is the first thing that is said. -/
theorem execution_talk {σ ε : Type} (wait : String → String → Nat → Routine ε Bool)
    (backend : Backend σ) (command session : String) (timeoutSecs : Nat) (outputPath : String)
    (c : Course σ) :
    ∃ launch rest,
      (terms.execution wait command session timeoutSecs outputPath).talk backend c =
        launch :: rest ∧
      launch.call = terms.launchCall command session outputPath ∧
      launch.ended = c.now + (backend.respond c.box c.now
        (terms.launchCall command session outputPath)).1.delay := by
  rw [execution, log_bind, request_bind]
  exact ⟨_, _, rfl, rfl, rfl⟩

theorem Reads.walk {terms : Terms} {session outputPath : String} {read : Exchange}
    {result : Result} (h : terms.Reads session outputPath read result) :
    Walk [.call .testExecuting (terms.collectCall session outputPath) (·.isSuccess)] [read]
      result.fate := by
  cases h with
  | printed success =>
      refine .pass (.ofAnswer ?_) .done
      simp [CommandOutput.isSuccess, success]
  | unread failed =>
      refine .miss (.ofAnswer ?_)
      simp [CommandOutput.isSuccess, failed]
  | unanswered => exact .miss (.unanswered nofun)

/-- How an execution goes tells how far it went. -/
theorem Proceeds.runs {terms : Terms} {pause : Nat} {command session outputPath : String}
    {timeoutSecs last : Nat} {talk : List Exchange} {result : Result}
    (h : terms.Proceeds pause command session timeoutSecs outputPath talk result last) :
    terms.Runs command session timeoutSecs outputPath talk result.fate := by
  cases h with
  | unlaunched => exact .unlaunched nofun
  | unnamed unknown =>
      refine .unlaunched fun other same => ?_
      cases same
      exact unknown
  | launched known settles =>
      cases settles with
      | late there => exact .launched known (.miss (.await there.awaits))
      | gone gone reads => exact .launched known (.pass (.await gone.awaits) reads.walk)

end Terms

namespace Executor

variable (executor : Executor)

/-- What follows a launch that is answered with a process, when the clock can show the deadline. -/
theorem await_settles {σ : Type} (backend : Backend σ) (pid : Nat) (session : String)
    (timeoutSecs : Nat) (outputPath : String) (c : Course σ)
    (calm : ∀ x ∈ (executor.await executor.poll pid session timeoutSecs outputPath).talk backend c,
      x.IsCalm)
    (reached : executor.clock.reaches c.now timeoutSecs) :
    ∃ result,
      ((executor.await executor.poll pid session timeoutSecs outputPath).perform backend c).1 =
        .value result ∧
      executor.Settles session outputPath
        (Polls executor.pollInterval (probeText pid) session (c.now + timeoutSecs * 1000) c.now)
        ((executor.await executor.poll pid session timeoutSecs outputPath).talk backend c) result
        ((executor.await executor.poll pid session timeoutSecs outputPath).perform backend
          c).2.now := by
  rw [Terms.await, log_bind] at calm ⊢
  simp only [talk, perform, reached, if_pos, probeCommand_eq] at calm ⊢
  obtain ⟨isGone, ending, polls⟩ := executor.poll_polls backend (probeText pid) session
    (timeoutSecs * 1000) _ fun x mem => calm x (by
      rw [talk_bind]
      exact List.mem_append_left _ mem)
  exact executor.conclude_settles ending polls calm

/-- **Whole.** An execution without crashes goes the one way there is, when the clock can show its
deadline once the launch is answered. -/
theorem execution_proceeds {σ : Type} (backend : Backend σ) (command session : String)
    (timeoutSecs : Nat) (outputPath : String) (c : Course σ)
    (calm : ∀ x ∈ (executor.execution command session timeoutSecs outputPath).talk backend c,
      x.IsCalm)
    (reached : executor.clock.reaches (c.now + (backend.respond c.box c.now
      (executor.launchCall command session outputPath)).1.delay) timeoutSecs) :
    ∃ result,
      ((executor.execution command session timeoutSecs outputPath).perform backend c).1 =
        .value result ∧
      executor.Proceeds executor.pollInterval command session timeoutSecs outputPath
        ((executor.execution command session timeoutSecs outputPath).talk backend c) result
        ((executor.execution command session timeoutSecs outputPath).perform backend c).2.now := by
  rw [execution, Terms.execution, log_bind, request_bind] at calm ⊢
  simp only [talk, perform] at calm ⊢
  cases launch : backend.call (.run (dispatchCommand command outputPath) (some session) .normal
      executor.dispatchLimit) { c with log := c.log.push ⟨.debug, .execution⟩ } with
  | mk ending d =>
      have answered : d.now = _ := (congrArg (·.2.now) launch).symm
      simp only [launch] at calm ⊢
      cases ending with
      | value out =>
          cases known : extractPid? out.output with
          | none =>
              simp only [known]
              exact ⟨_, rfl, .unnamed known⟩
          | some pid =>
              simp only [known] at calm ⊢
              obtain ⟨result, value, settles⟩ := executor.await_settles backend pid session
                timeoutSecs outputPath d (fun x mem => calm x (List.mem_cons_of_mem _ mem))
                (answered ▸ reached)
              exact ⟨result, value, .launched known settles⟩
      | error e => exact ⟨_, rfl, .unlaunched⟩
      | crash p => exact (calm _ List.mem_cons_self p rfl).elim

/-- An execution without crashes goes one of the ways there are, and its result tells how far it
went. -/
theorem execution_runs {σ : Type} (backend : Backend σ) (command session : String)
    (timeoutSecs : Nat) (outputPath : String) (c : Course σ)
    (calm : ∀ x ∈ (executor.execution command session timeoutSecs outputPath).talk backend c,
      x.IsCalm)
    (reached : ∀ x ∈ (executor.execution command session timeoutSecs outputPath).talk backend c,
      x.call = executor.launchCall command session outputPath →
        executor.clock.reaches x.ended timeoutSecs) :
    ∃ result,
      ((executor.execution command session timeoutSecs outputPath).perform backend c).1 =
        .value result ∧
      executor.Runs command session timeoutSecs outputPath
        ((executor.execution command session timeoutSecs outputPath).talk backend c)
        result.fate := by
  obtain ⟨launch, rest, said, asked, ended⟩ := executor.execution_talk executor.poll backend command
    session timeoutSecs outputPath c
  have first := reached launch (said ▸ List.mem_cons_self) asked
  rw [ended] at first
  obtain ⟨result, value, proceeds⟩ := executor.execution_proceeds backend command session
    timeoutSecs outputPath c calm first
  exact ⟨result, value, proceeds.runs⟩

end Executor

end AgentTrial.Execution
