import AgentTrial.Proofs.Shell.Layers
import AgentTrial.Proofs.Trial.Deeds

/-!
# Classification of executions

What an execution comes to, told by the answers it gets: it has one of four ways to end.

* **Ways to end** — `Classified` lists them, each with all that is said in it. What is said decides
  the way and the result (`Classified.unique`), and every probe in it is a look at the process that
  the launch has named (`Classified.probes`).
* **Words** — the kind of the result does not depend on what the command prints
  (`Rephrases.execution`): up to the collecting call nothing of it is heard.
* **Classification** — every execution without crashes ends in one of these ways
  (`execution_classified`).
-/

namespace AgentTrial

/-- The same ending with another value. -/
def Ending.map {ε α β : Type} (f : α → β) : Ending ε α → Ending ε β
  | .value a => .value (f a)
  | .error e => .error e
  | .crash p => .crash p

namespace Execution

open Routine

/-- The kinds of results. -/
inductive Result.Kind where
  | completed
  | timedOut
  | dispatchError
  deriving DecidableEq

/-- The kind of a result. -/
def Result.kind : Result → Kind
  | .completed _ => .completed
  | .timedOut => .timedOut
  | .dispatchError _ => .dispatchError

/-! ## Ways to end -/

section Ends

variable {terms : Terms} {pause : Nat} {session outputPath probe : String}
  {deadline now last : Nat} {talk : List Exchange} {result result' : Result} {isGone : Bool}

/-- Polling as a list of probes: the last one decides, and it ends the polling. -/
theorem Polls.split (h : Polls pause probe session deadline now talk isGone last) :
    ∃ before x, talk = before ++ [x] ∧ x.ended = last ∧
      (∀ y ∈ before, FindsNothing probe session (patience pause deadline) y ∧
        y.ended < deadline) ∧
      match isGone with
      | true => FindsGone probe session (patience pause deadline) x
      | false => FindsNothing probe session (patience pause deadline) x ∧ deadline ≤ x.ended := by
  have nobody : ∀ y ∈ ([] : List Exchange),
      FindsNothing probe session (patience pause deadline) y ∧ y.ended < deadline :=
    fun y mem => absurd mem List.not_mem_nil
  induction h with
  | @gone x finds => exact ⟨[], x, rfl, rfl, nobody, finds⟩
  | @late x finds late => exact ⟨[], x, rfl, rfl, nobody, finds, late⟩
  | @again x rest isGone last finds early later ih =>
      obtain ⟨before, y, rfl, ends, going, decides⟩ := ih
      refine ⟨x :: before, y, rfl, ends, ?_, decides⟩
      intro z mem
      rcases List.mem_cons.mp mem with rfl | mem
      · exact ⟨finds, early⟩
      · exact going z mem

theorem Terms.Reads.call_eq {read : Exchange} (h : terms.Reads session outputPath read result) :
    read.call = terms.collectCall session outputPath := by
  cases h <;> rfl

theorem Terms.Reads.unique {read : Exchange} (h : terms.Reads session outputPath read result)
    (h' : terms.Reads session outputPath read result') : result = result' := by
  cases h with
  | printed success =>
      cases h' with
      | printed => rfl
      | unread failed => exact absurd success failed
  | unread failed =>
      cases h' with
      | printed success => exact absurd success failed
      | unread => rfl
  | unanswered =>
      cases h'
      rfl

theorem FindsGone.call_eq {patience : Nat → Nat} {x : Exchange}
    (h : FindsGone probe session patience x) : x.call = .probe probe session := by
  cases h
  rfl

theorem FindsNothing.call_eq {patience : Nat → Nat} {x : Exchange}
    (h : FindsNothing probe session patience x) : x.call = .probe probe session := by
  cases h <;> rfl

/-- A collecting call is no probe. -/
theorem Terms.Reads.not_findsNothing {patience : Nat → Nat} {x : Exchange}
    (h : terms.Reads session outputPath x result) :
    ¬ FindsNothing probe session patience x := by
  intro finds
  cases h.call_eq.symm.trans finds.call_eq

end Ends

namespace Executor

variable (executor : Executor)

/-- How an execution goes and what it comes to, told by the answers it gets. A process that is
launched has its deadline so many seconds after the answer to the launch. -/
inductive Classified (command session : String) (timeoutSecs : Nat) (outputPath : String) :
    List Exchange → Result → Prop where
  /-- The launch fails. -/
  | unlaunched {began ended : Nat} {e : SandboxError} :
      Classified command session timeoutSecs outputPath
        [⟨executor.launchCall command session outputPath, began, ended, .error e⟩]
        (.dispatchError s!"dispatch failed: {e.text}")
  /-- The answer to the launch names no process. -/
  | unnamed {began ended : Nat} {out : CommandOutput} (unknown : extractPid? out.output = none) :
      Classified command session timeoutSecs outputPath
        [⟨executor.launchCall command session outputPath, began, ended, .value (some out)⟩]
        (.dispatchError s!"could not extract PID from: {Text.trim out.output}")
  /-- Probes of the process before the deadline find nothing, until one finds it gone; then the
  output is collected. -/
  | finished {began ended pid : Nat} {out : CommandOutput} {before : List Exchange}
      {probe read : Exchange} {result : Result} (known : extractPid? out.output = some pid)
      (going : ∀ x ∈ before,
        FindsNothing (probeText pid) session
            (patience executor.pollInterval (ended + timeoutSecs * 1000)) x ∧
          x.ended < ended + timeoutSecs * 1000)
      (gone : FindsGone (probeText pid) session
        (patience executor.pollInterval (ended + timeoutSecs * 1000)) probe)
      (reads : executor.Reads session outputPath read result) :
      Classified command session timeoutSecs outputPath
        (⟨executor.launchCall command session outputPath, began, ended, .value (some out)⟩ ::
          (before ++ [probe, read])) result
  /-- No probe finds the process gone, up to the first that is over at the deadline or later. -/
  | timedOut {began ended pid : Nat} {out : CommandOutput} {before : List Exchange}
      {probe : Exchange} (known : extractPid? out.output = some pid)
      (going : ∀ x ∈ before,
        FindsNothing (probeText pid) session
            (patience executor.pollInterval (ended + timeoutSecs * 1000)) x ∧
          x.ended < ended + timeoutSecs * 1000)
      (nothing : FindsNothing (probeText pid) session
        (patience executor.pollInterval (ended + timeoutSecs * 1000)) probe)
      (late : ended + timeoutSecs * 1000 ≤ probe.ended) :
      Classified command session timeoutSecs outputPath
        (⟨executor.launchCall command session outputPath, began, ended, .value (some out)⟩ ::
          (before ++ [probe])) .timedOut

/-- A command looks whether a process is there, and whether it is a zombie by what its state says. -/
def LooksAt (pid : Nat) (text : String) : Prop :=
  Shell.read? text = some
    [({ words := ["kill", "-0", toString pid].map .ofText
        stderr := .file (.ofText "/dev/null") }, .onSuccess),
      (.ofTexts ["!", "grep", "-qs", "^State:[[:space:]]*Z", "/proc/" ++ toString pid ++ "/status"],
        .last)]

section Ways

variable {executor} {command session outputPath : String} {timeoutSecs last : Nat}
  {talk : List Exchange} {result result' : Result}

/-- An execution ends in one of the ways, with its last call. -/
theorem Classified.ofProceeds
    (h : executor.Proceeds executor.pollInterval command session timeoutSecs outputPath talk result
      last) :
    executor.Classified command session timeoutSecs outputPath talk result ∧
      talk.getLast?.map (·.ended) = some last := by
  cases h with
  | unlaunched => exact ⟨.unlaunched, rfl⟩
  | unnamed unknown => exact ⟨.unnamed unknown, rfl⟩
  | launched known settles =>
      cases settles with
      | late there =>
          obtain ⟨before, x, rfl, rfl, going, nothing, late⟩ := there.split
          refine ⟨.timedOut known going nothing late, ?_⟩
          simp [List.getLast?_cons]
      | gone gone reads =>
          obtain ⟨before, x, rfl, -, going, finds⟩ := gone.split
          rw [List.append_assoc]
          refine ⟨.finished known going finds reads, ?_⟩
          simp [List.getLast?_cons]

/-- A probe in an execution looks at the process that the launch has named. -/
theorem Classified.probes
    (h : executor.Classified command session timeoutSecs outputPath talk result) {x : Exchange}
    (mem : x ∈ talk) {text name : String} (probe : x.call = .probe text name) :
    ∃ began ended out pid,
      talk.head? = some
        ⟨executor.launchCall command session outputPath, began, ended, .value (some out)⟩ ∧
      extractPid? out.output = some pid ∧ name = session ∧ LooksAt pid text := by
  have looks (pid : Nat) : LooksAt pid (probeText pid) := Shell.read_probeCommand pid
  cases h with
  | unlaunched =>
      obtain rfl := List.mem_singleton.mp mem
      cases probe
  | unnamed =>
      obtain rfl := List.mem_singleton.mp mem
      cases probe
  | finished known going gone reads =>
      simp only [List.mem_cons, List.mem_append, List.not_mem_nil, or_false] at mem
      obtain ⟨rfl, rfl⟩ : probeText _ = text ∧ session = name := by
        rcases mem with rfl | mem | rfl | rfl
        · cases probe
        · exact Call.probe.inj ((going x mem).1.call_eq.symm.trans probe)
        · exact Call.probe.inj (gone.call_eq.symm.trans probe)
        · cases reads.call_eq.symm.trans probe
      exact ⟨_, _, _, _, rfl, known, rfl, looks _⟩
  | timedOut known going nothing late =>
      simp only [List.mem_cons, List.mem_append, List.not_mem_nil, or_false] at mem
      obtain ⟨rfl, rfl⟩ : probeText _ = text ∧ session = name := by
        rcases mem with rfl | mem | rfl
        · cases probe
        · exact Call.probe.inj ((going x mem).1.call_eq.symm.trans probe)
        · exact Call.probe.inj (nothing.call_eq.symm.trans probe)
      exact ⟨_, _, _, _, rfl, known, rfl, looks _⟩

/-- What is said in an execution decides what it comes to. -/
theorem Classified.unique
    (h : executor.Classified command session timeoutSecs outputPath talk result)
    (h' : executor.Classified command session timeoutSecs outputPath talk result') :
    result = result' := by
  generalize same : talk = talk' at h'
  cases h with
  | unlaunched =>
      cases h' with
      | unlaunched =>
          cases same
          rfl
      | unnamed => cases same
      | finished => cases same
      | timedOut => cases same
  | unnamed unknown =>
      cases h' with
      | unlaunched => cases same
      | unnamed =>
          cases same
          rfl
      | @finished _ _ _ _ before' => cases before' <;> cases same
      | @timedOut _ _ _ _ before' => cases before' <;> cases same
  | @finished _ _ _ _ before probe read _ known going gone reads =>
      cases h' with
      | unlaunched => cases same
      | unnamed => cases before <;> cases same
      | @finished _ _ _ _ before' probe' read' _ known' going' gone' reads' =>
          obtain rfl : read = read' := by
            simpa [List.getLast?_cons] using congrArg List.getLast? same
          exact reads.unique reads'
      | @timedOut _ _ _ _ before' probe' known' going' nothing' late' =>
          -- one ends with the collecting call and the other with a probe
          obtain rfl : read = probe' := by
            simpa [List.getLast?_cons] using congrArg List.getLast? same
          exact (reads.not_findsNothing nothing').elim
  | @timedOut _ _ _ _ before probe known going nothing late =>
      cases h' with
      | unlaunched => cases same
      | unnamed => cases before <;> cases same
      | @finished _ _ _ _ before' probe' read' _ known' going' gone' reads' =>
          obtain rfl : probe = read' := by
            simpa [List.getLast?_cons] using congrArg List.getLast? same
          exact (reads'.not_findsNothing nothing).elim
      | timedOut => rfl

end Ways

/-! ## Words -/

/-- Another sandbox replies to every call as a sandbox does, but to the collecting call in other
words: with the same exit code, or with the same error or crash. -/
structure Rephrases {σ : Type} (session outputPath : String) (backend other : Backend σ) :
    Prop where
  elsewhere : ∀ asked, asked ≠ executor.collectCall session outputPath → ∀ box now,
    other.respond box now asked = backend.respond box now asked
  exit : ∀ box now,
    (other.respond box now (executor.collectCall session outputPath)).1.ending.map
        CommandOutput.exitCode =
      (backend.respond box now (executor.collectCall session outputPath)).1.ending.map
        CommandOutput.exitCode

section Words

variable {executor} {session outputPath : String} {σ : Type} {backend other : Backend σ}

/-- What is done in the same way with both sandboxes may come before. -/
theorem Rephrases.bind {α : Type} {r : Routine Empty α} {next : α → Routine Empty Result}
    (h : executor.Rephrases session outputPath backend other)
    (first : r.All fun d => d ≠ .call (executor.collectCall session outputPath))
    (rest : ∀ a c, ((next a).perform other c).1.map Result.kind =
      ((next a).perform backend c).1.map Result.kind) (c : Course σ) :
    ((r >>= next).perform other c).1.map Result.kind =
      ((r >>= next).perform backend c).1.map Result.kind := by
  have same : r.perform other c = r.perform backend c := by
    refine perform_congr (fun asked unlike => h.elsewhere asked ?_) first c
    rintro rfl
    exact unlike rfl
  rw [perform_bind, perform_bind, same]
  cases (r.perform backend c).1 with
  | value a => exact rest a _
  | error e => rfl
  | crash p => rfl

/-- The kind of the result by the exit code of the collecting call. -/
theorem collect_kind (backend : Backend σ) (c : Course σ) :
    ((executor.collect session outputPath : Routine Empty Result).perform backend c).1.map
        Result.kind =
      match (backend.respond c.box c.now (executor.collectCall session outputPath)).1.ending.map
        CommandOutput.exitCode with
      | .value code => .value (if code = 0 then .completed else .dispatchError)
      | .error _ => .value .dispatchError
      | .crash p => .crash p := by
  rw [Terms.collect, request_bind]
  simp only [perform, Backend.call, collectCommand, Terms.collectCall]
  cases (backend.respond c.box c.now _).1.ending with
  | value out =>
      by_cases success : out.exitCode = 0
      · have passed : out.isSuccess = true := by simp [CommandOutput.isSuccess, success]
        simp only [passed, Ending.map, success, if_pos]
        rfl
      · have failed : out.isSuccess = false := by simp [CommandOutput.isSuccess, success]
        simp only [failed, Ending.map, success, if_false]
        rfl
  | error e => rfl
  | crash p => rfl

theorem Rephrases.collect (h : executor.Rephrases session outputPath backend other)
    (c : Course σ) :
    ((executor.collect session outputPath : Routine Empty Result).perform other c).1.map
        Result.kind =
      ((executor.collect session outputPath : Routine Empty Result).perform backend c).1.map
        Result.kind := by
  rw [collect_kind, collect_kind, h.exit]

theorem Rephrases.await (h : executor.Rephrases session outputPath backend other) (pid : Nat)
    (timeoutSecs : Nat) (c : Course σ) :
    ((executor.await executor.poll pid session timeoutSecs outputPath).perform other c).1.map
        Result.kind =
      ((executor.await executor.poll pid session timeoutSecs outputPath).perform backend c).1.map
        Result.kind := by
  refine h.bind (All.log _ _) (fun _ c => ?_) c
  simp only [perform]
  cases executor.clock.reaches c.now timeoutSecs with
  | false => rfl
  | true =>
      refine h.bind (executor.poll_all ?_ _) (fun gone c => ?_) c
      · intro same
        cases same
      · cases gone with
        | false => rfl
        | true => exact h.bind (All.log _ _) (fun _ c => h.collect c) c

/-- The launch is not the collecting call. -/
theorem launchCall_ne_collectCall (command : String) :
    executor.launchCall command session outputPath ≠ executor.collectCall session outputPath := by
  intro same
  have commands := (Call.run.inj same).1
  -- the two commands begin with different letters
  have firsts := congrArg (·.toList.head?) commands
  simp [String.toList_append] at firsts

/-- **Words.** The kind of the result does not depend on the words in which the output is told. -/
theorem Rephrases.execution (h : executor.Rephrases session outputPath backend other)
    (command : String) (timeoutSecs : Nat) (c : Course σ) :
    ((executor.execution command session timeoutSecs outputPath).perform other c).1.map
        Result.kind =
      ((executor.execution command session timeoutSecs outputPath).perform backend c).1.map
        Result.kind := by
  refine h.bind (All.log _ _) (fun _ c => ?_) c
  refine h.bind (All.request ?_) (fun response c => ?_) c
  · intro same
    exact launchCall_ne_collectCall command (Deed.call.inj same)
  · cases response with
    | error e => rfl
    | ok out =>
        dsimp only
        split
        · rfl
        · exact h.await _ timeoutSecs c

end Words

/-! ## Classification -/

/-- An execution is explained by what is said in it and by the result that it comes to. -/
structure Explained {σ : Type} (backend : Backend σ) (command session : String) (timeoutSecs : Nat)
    (outputPath : String) (c : Course σ) (said : List Exchange) (result : Result) : Prop where
  /-- It comes to the result, … -/
  value : (executor.execute backend command session timeoutSecs outputPath c).1 = .value result
  /-- … at the end of its last call. -/
  last : said.getLast?.map (·.ended) =
    some (executor.execute backend command session timeoutSecs outputPath c).2.now
  /-- What is said is all that is recorded, … -/
  recorded : (executor.execute backend command session timeoutSecs outputPath c).2.entries.toList =
    c.entries.toList ++ said.map Exchange.entry
  /-- … and it is what the sandbox replies, as far as it is waited for. -/
  answered : Answered backend c.box said
  /-- It goes one of the ways there are, … -/
  classified : executor.Classified command session timeoutSecs outputPath said result
  /-- … in which every probe looks at the process that the launch has named, … -/
  probes : ∀ x ∈ said, ∀ text name, x.call = .probe text name → ∃ began ended out pid,
    said.head? = some
      ⟨executor.launchCall command session outputPath, began, ended, .value (some out)⟩ ∧
    extractPid? out.output = some pid ∧ name = session ∧ LooksAt pid text
  /-- … and what is said allows no other result. -/
  only : ∀ result', executor.Classified command session timeoutSecs outputPath said result' →
    result' = result
  /-- With the output in other words the result would be of the same kind. -/
  words : ∀ other, executor.Rephrases session outputPath backend other → ∃ result',
    (executor.execute other command session timeoutSecs outputPath c).1 = .value result' ∧
      result'.kind = result.kind

/-- **Classification.** An execution without crashes is explained, when the clock can show its
deadline once the launch is answered. -/
theorem execution_classified {σ : Type} (backend : Backend σ) (command session : String)
    (timeoutSecs : Nat) (outputPath : String) (c : Course σ)
    (calm : ∀ x ∈ (executor.execution command session timeoutSecs outputPath).talk backend c,
      x.IsCalm)
    (reached : executor.clock.reaches (c.now + (backend.respond c.box c.now
      (executor.launchCall command session outputPath)).1.delay) timeoutSecs) :
    ∃ said result,
      executor.Explained backend command session timeoutSecs outputPath c said result := by
  obtain ⟨result, value, proceeds⟩ := executor.execution_proceeds backend command session
    timeoutSecs outputPath c calm reached
  obtain ⟨classified, last⟩ := Classified.ofProceeds proceeds
  refine ⟨_, result, {
    value := value
    last := last
    recorded := perform_entries backend _ c
    answered := talk_answered backend _ c
    classified := classified
    probes := fun x mem text name probe => classified.probes mem probe
    only := fun result' other => other.unique classified
    words := ?_ }⟩
  intro other rephrases
  have kinds := rephrases.execution command timeoutSecs c
  rw [value] at kinds
  cases own : ((executor.execution command session timeoutSecs outputPath).perform other c).1 with
  | value result' =>
      rw [own] at kinds
      exact ⟨result', own, Ending.value.inj kinds⟩
  | error e => exact e.elim
  | crash p =>
      rw [own] at kinds
      cases kinds

/-- What the probes of a process find that is there, then cannot be probed, and then is gone. -/
def falteringProbe : Nat → Ending SandboxError Int
  | 0 => .value 0
  | 1 => .error (.command "lost")
  | _ => .value 1

/-- A sandbox with such a process, which prints a word that names another result. -/
def faltering : Backend Nat where
  id := "box"
  takesDirs := false
  respond probes _ asked :=
    match asked with
    | .run command .. =>
      let output := if command = collectCommand "/tmp/o" then "timeout" else "[1] 5"
      ({ ending := .value { output }, delay := 20 }, probes)
    | .probe .. => ({ ending := falteringProbe probes, delay := 300 }, probes + 1)
    | .start => ({ ending := .value () }, probes)
    | .stop => ({ ending := .value () }, probes)
    | .session .. => ({ ending := .value () }, probes)
    | .uploadFile .. => ({ ending := .value true }, probes)
    | .uploadDir .. => ({ ending := .value 0 }, probes)

theorem execution_classified_faltering :
    ∃ said, hourly.Explained faltering "true" "s" 10 "/tmp/o" (.begin 0) said
      (.completed "timeout") ∧ said.length = 5 := by
  have calm : ∀ x ∈ (hourly.execution "true" "s" 10 "/tmp/o").talk faltering (.begin 0),
      x.IsCalm := by
    refine talk_isCalm (fun probes now asked p => ?_) _ _
    cases asked with
    | probe command session =>
        show falteringProbe probes ≠ .crash p
        rcases probes with _ | _ | probes <;> exact nofun
    | _ => exact nofun
  obtain ⟨said, result, explained⟩ := hourly.execution_classified faltering "true" "s" 10
    "/tmp/o" (.begin 0) calm (by decide)
  have value : (hourly.execute faltering "true" "s" 10 "/tmp/o" (.begin 0)).1 =
      .value (.completed "timeout") := by decide +kernel
  have entries :
      (hourly.execute faltering "true" "s" 10 "/tmp/o" (.begin 0)).2.entries.toList.length = 5 := by
    decide +kernel
  obtain rfl : result = .completed "timeout" := Ending.value.inj (explained.value.symm.trans value)
  have recorded := congrArg List.length explained.recorded
  rw [entries, List.length_append, List.length_map] at recorded
  have first : (Course.begin (0 : Nat)).entries.toList.length = 0 := rfl
  have length : said.length = 5 := by omega
  exact ⟨said, explained, length⟩

end Executor

end Execution

end AgentTrial
