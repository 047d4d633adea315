import AgentTrial.Proofs.Step
import AgentTrial.Sandbox.Container

/-!
# Calls on a container, one after the other

What each call on a container launches the tool with, and what it does to the two flags, for every
way in which the tool answers.

* **Answers** — a tool answers by all that it was launched with before, so every row of answers is
  that of some tool (`Tool.answering`), whose state is the record of its launches.
* **One call** — what a call can do is said once, failures of the tool included (`Goes`,
  `turn_goes`).
* **Many calls** — calls are made one after the other (`turns`), and the record of the tool is all
  that was launched for them.
-/

namespace AgentTrial

/-- A launch of a tool: its arguments and how it ended. -/
structure Launch where
  args : List String
  ending : Tool.Ending

namespace Tool

/-- Whether a launch ended with exit code zero. -/
def Ending.succeeds : Ending → Bool
  | .finished out => out.isSuccess
  | _ => false

/-- What is told of how a launch ended to who waits for it, up to a limit. -/
def Ending.told (limit : Duration) : Ending → AgentTrial.Ending SandboxError CommandOutput
  | .finished out => .value out
  | .unavailable cause => .error (.command s!"docker not available: {cause.text}")
  | .hanging => .error (.timeout limit)

/-- How long who waits for a launch waits, up to a limit. -/
def Ending.delay (limit : Duration) : Ending → Nat
  | .hanging => limit.ticks
  | _ => 0

/-- How a tool answers a launch: by its launches before, the first first, and the arguments. -/
abbrev Answers := List Launch → List String → Ending

/-- The tool that answers so and keeps a record of its launches. -/
def answering (answers : Answers) : Tool (List Launch) where
  launch past args := (answers past args, past ++ [⟨args, answers past args⟩])

end Tool

/-- Whether a call is for a container that is started: all but the start and the stop are. -/
def Call.isCommand : Call → Bool
  | .start => false
  | .stop => false
  | _ => true

theorem Call.isCommand_iff (call : Call) : call.isCommand ↔ call ≠ .start ∧ call ≠ .stop := by
  cases call <;> simp [isCommand]

namespace Container

/-! ## One call -/

/-- A call on a container as it went: how it ended, and what was launched for it. -/
structure Turn where
  call : Call
  ending : Ending SandboxError call.Answer
  launches : List Launch

/-- The arguments that a call which the container takes is launched with, in the environments of its
sessions. -/
inductive Does (spec : Spec) (environment : Option String → List (String × String)) :
    Call → List (List String) → Prop where
  | session {name env} : Does spec environment (.session name env) []
  | run {command session limit} : Does spec environment (.run command session .normal limit)
      [spec.execArguments (environment session) command]
  | runApart {command session limit} : Does spec environment (.run command session .nohup limit)
      [spec.execArguments (environment session) (detached command)]
  | probe {command session} : Does spec environment (.probe command session)
      [spec.execArguments (environment (some session)) command]
  /-- The file does not lie here. -/
  | noFile {upload remote} : Does spec environment (.uploadFile upload remote) []
  | file {upload remote} : Does spec environment (.uploadFile upload remote)
      [spec.copyArguments upload.path remote]
  /-- The directory cannot be made in the container. -/
  | noDir {dir remote} : Does spec environment (.uploadDir dir remote)
      [spec.execArguments [] ("mkdir -p " ++ Shell.quote remote)]
  | dir {dir remote} : Does spec environment (.uploadDir dir remote)
      [spec.execArguments [] ("mkdir -p " ++ Shell.quote remote),
        spec.copyArguments (dir ++ "/.") remote]

/-- What a call does to the two flags of a container, which are whether there may be one and whether
it takes commands. -/
inductive Goes (spec : Spec) (environment : Option String → List (String × String)) :
    Bool → Bool → Turn → Bool → Bool → Prop where
  | start {attempted started removal run} (up : run.succeeds) :
      Goes spec environment attempted started
        ⟨.start, .value (), [⟨spec.removeArguments, removal⟩, ⟨spec.runArguments, run⟩]⟩ true true
  /-- The tool fails to run the container. What takes commands by the flag still does. -/
  | startFails {attempted started removal run detail} (down : ¬ run.succeeds) :
      Goes spec environment attempted started
        ⟨.start, .error (.start detail),
          [⟨spec.removeArguments, removal⟩, ⟨spec.runArguments, run⟩]⟩ true started
  | stop {started ending removal} (told : ending.isValue = removal.succeeds) :
      Goes spec environment true started
        ⟨.stop, ending, [⟨spec.removeArguments, removal⟩]⟩ false false
  /-- There is nothing to stop. -/
  | idle {started} : Goes spec environment false started ⟨.stop, .value (), []⟩ false false
  | refuse {attempted call} (command : call.isCommand) :
      Goes spec environment attempted false ⟨call, .error (.notStarted spec.id), []⟩ attempted false
  | accept {attempted call ending launches} (command : call.isCommand)
      (taken : ending ≠ .error (.notStarted spec.id))
      (does : Does spec environment call (launches.map (·.args))) :
      Goes spec environment attempted true ⟨call, ending, launches⟩ attempted true

variable {answers : Tool.Answers} {spec : Spec} {fs : FileSystem}

section Answers

variable {c : Course (Container (List Launch))}

@[simp] theorem ends_ask {args : List String} {limit : Duration}
    {Q : Ending SandboxError CommandOutput → Course (Container (List Launch)) → Prop} :
    (ask (Tool.answering answers) args limit).Ends c Q ↔
      Q ((answers c.box.tool args).told limit) { c with
        now := c.now + (answers c.box.tool args).delay limit
        box := { c.box with tool := c.box.tool ++ [⟨args, answers c.box.tool args⟩] } } := by
  simp only [Step.Ends, ask, bind, Step.bind, Step.state, Step.update, Tool.answering]
  cases answers c.box.tool args <;> rfl

@[simp] theorem ends_requireStarted
    {Q : Ending SandboxError Unit → Course (Container (List Launch)) → Prop} :
    (requireStarted spec).Ends c Q ↔
      if c.box.started then Q (.value ()) c else Q (.error (.notStarted spec.id)) c := by
  simp [requireStarted]

/-- That a call goes as it can, seen from the course in which it is made. -/
def Answered (spec : Spec) (call : Call) (c : Course (Container (List Launch)))
    (ending : Ending SandboxError call.Answer) (d : Course (Container (List Launch))) : Prop :=
  ∃ launches, d.box.tool = c.box.tool ++ launches ∧
    Goes spec c.box.environment c.box.attempted c.box.started ⟨call, ending, launches⟩
      d.box.attempted d.box.started

theorem start_answered :
    (start (Tool.answering answers) spec).Ends c (Answered spec .start c) := by
  simp only [start, Step.ends_bind, Step.ends_log, Step.ends_safely, Step.ends_attempt,
    Step.ends_update, Step.ends_mapError, Step.ends_ite, Step.ends_fail, ends_ask]
  generalize answers c.box.tool spec.removeArguments = removal
  generalize answers (c.box.tool ++ [⟨spec.removeArguments, removal⟩]) spec.runArguments = run
  -- what became of the removal changes no more than what is logged
  cases removal <;> cases run with
  | finished out =>
      dsimp only [Tool.Ending.told]
      split
      · exact ⟨[_, _], List.append_assoc .., .start ‹_›⟩
      · exact ⟨[_, _], List.append_assoc .., .startFails ‹_›⟩
  | unavailable | hanging => exact ⟨[_, _], List.append_assoc .., .startFails Bool.false_ne_true⟩

theorem stop_answered :
    (stop (Tool.answering answers) spec).Ends c (Answered spec .stop c) := by
  obtain ⟨now, ⟨sessions, attempted, started, past⟩, entries, log⟩ := c
  simp only [stop, Step.ends_bind, Step.ends_update, Step.ends_state, Step.ends_ite, Step.ends_log,
    Step.ends_pure, Step.ends_fail, ends_ask]
  -- both flags are unset by now, whatever the tool will answer
  cases attempted with
  | false => exact ⟨[], (List.append_nil _).symm, .idle⟩
  | true =>
      cases answers past spec.removeArguments with
      | finished out =>
          dsimp only [Tool.Ending.told]
          rw [if_pos rfl]
          split
          · exact ⟨[_], rfl, .stop (Eq.symm ‹_›)⟩
          · exact ⟨[_], rfl, .stop (Eq.symm (Bool.not_eq_true _ ▸ ‹_›))⟩
      | unavailable | hanging => exact ⟨[_], rfl, .stop rfl⟩

/-- What a container does with a call that it takes. -/
structure Taken (spec : Spec) (call : Call) (c : Course (Container (List Launch)))
    (ending : Ending SandboxError call.Answer) (d : Course (Container (List Launch))) : Prop where
  heard : ending ≠ .error (.notStarted spec.id)
  attempted : d.box.attempted = c.box.attempted
  started : d.box.started = c.box.started
  does : ∃ launches, Does spec c.box.environment call (launches.map (·.args)) ∧
    d.box.tool = c.box.tool ++ launches

/-- A command goes through the check of the flag first. -/
theorem command_answered {call : Call} (command : call.isCommand)
    {rest : Step (Container (List Launch)) SandboxError call.Answer}
    (taken : c.box.started → rest.Ends c (Taken spec call c)) :
    (requireStarted spec >>= fun _ => rest).Ends c (Answered spec call c) := by
  simp only [Step.ends_bind, ends_requireStarted]
  split
  · rename_i started
    obtain ⟨heard, sameAttempted, sameStarted, launches, does, tool⟩ := taken started
    refine ⟨launches, tool, ?_⟩
    rw [sameAttempted, sameStarted, started]
    exact .accept command heard does
  · rename_i idle
    rw [Answered, Bool.eq_false_iff.mpr idle]
    exact ⟨[], (List.append_nil _).symm, .refuse command⟩

theorem told_ne_notStarted (ending : Tool.Ending) (limit : Duration) (id : String) :
    ending.told limit ≠ .error (.notStarted id) := by
  cases ending <;> simp [Tool.Ending.told]

theorem session_answered {name : String} {env : List (String × String)} :
    (createSession spec name env).Ends c (Answered spec (.session name env) c) := by
  refine command_answered rfl fun _ => ?_
  simp only [Step.ends_bind, Step.ends_log, Step.ends_update]
  exact ⟨by simp, rfl, rfl, [], .session, (List.append_nil _).symm⟩

theorem run_answered {command : String} {session : Option String} {mode : RunMode}
    {limit : Duration} :
    (runCommand (Tool.answering answers) spec command session mode limit).Ends c
      (Answered spec (.run command session mode limit) c) := by
  refine command_answered rfl fun _ => ?_
  simp only [exec, Step.ends_bind, Step.ends_log, Step.ends_state, ends_ask]
  refine ⟨told_ne_notStarted _ _ _, rfl, rfl, [_], ?_, rfl⟩
  cases mode with
  | normal => exact .run
  | nohup => exact .runApart

theorem probe_answered {command session : String} :
    (probe (Tool.answering answers) spec command session).Ends c
      (Answered spec (.probe command session) c) := by
  refine command_answered rfl fun _ => ?_
  simp only [exec, Step.ends_bind, Step.ends_state, ends_ask, Step.ends_pure]
  cases answers c.box.tool (spec.execArguments (c.box.environment (some session)) command) <;>
    exact ⟨by simp, rfl, rfl, [_], .probe, rfl⟩

theorem file_answered {upload : Upload} {remote : String} :
    (copyFile (Tool.answering answers) spec fs upload remote).Ends c
      (Answered spec (.uploadFile upload remote) c) := by
  refine command_answered rfl fun _ => ?_
  simp only [Step.ends_bind, Step.ends_ite, Step.ends_log, Step.ends_pure, Step.ends_fail, ends_ask]
  split
  · cases answers c.box.tool (spec.copyArguments upload.path remote) with
    | finished out =>
        dsimp only [Tool.Ending.told]
        split <;> exact ⟨by simp, rfl, rfl, [_], .file, rfl⟩
    | unavailable | hanging => exact ⟨by simp, rfl, rfl, [_], .file, rfl⟩
  · exact ⟨by simp, rfl, rfl, [], .noFile, (List.append_nil _).symm⟩

theorem dir_answered {dir remote : String} :
    (copyDir (Tool.answering answers) spec dir remote).Ends c
      (Answered spec (.uploadDir dir remote) c) := by
  refine command_answered rfl fun started => ?_
  simp only [runCommand, exec, Step.ends_bind, Step.ends_ite, Step.ends_log, Step.ends_state,
    Step.ends_pure, ends_ask, ends_requireStarted, if_pos started]
  cases answers c.box.tool (spec.execArguments (c.box.environment none)
      ("mkdir -p " ++ Shell.quote remote)) with
  | finished out =>
      dsimp only [Tool.Ending.told]
      -- only a directory that could be made is filled
      split
      · generalize answers _ (spec.copyArguments (dir ++ "/.") remote) = copied
        cases copied <;> exact ⟨by simp, rfl, rfl, [_, _], .dir, List.append_assoc ..⟩
      · exact ⟨by simp, rfl, rfl, [_], .noDir, rfl⟩
  | unavailable | hanging => exact ⟨by simp, rfl, rfl, [_], .noDir, rfl⟩

theorem answer_answered (answers : Tool.Answers) (spec : Spec) (fs : FileSystem) (call : Call)
    (c : Course (Container (List Launch))) :
    (answer (Tool.answering answers) spec fs call).Ends c (Answered spec call c) := by
  cases call with
  | start => exact start_answered
  | stop => exact stop_answered
  | session name env => exact session_answered
  | run command session mode limit => exact run_answered
  | probe command session => exact probe_answered
  | uploadFile upload remote => exact file_answered
  | uploadDir dir remote => exact dir_answered

end Answers

/-- Makes a call at an instant. -/
def turn (answers : Tool.Answers) (spec : Spec) (fs : FileSystem) (box : Container (List Launch))
    (now : Nat) (call : Call) : Turn × Container (List Launch) :=
  let (reply, after) := (backend (Tool.answering answers) spec fs).respond box now call
  (⟨call, reply.ending, after.tool.drop box.tool.length⟩, after)

/-- **One call.** However the tool answers, a call goes as it can, and the record of the tool grows
by what was launched for it. -/
theorem turn_goes (answers : Tool.Answers) (spec : Spec) (fs : FileSystem)
    (box : Container (List Launch)) (now : Nat) (call : Call) :
    let r := turn answers spec fs box now call
    r.1.call = call ∧ r.2.tool = box.tool ++ r.1.launches ∧
      Goes spec box.environment box.attempted box.started r.1 r.2.attempted r.2.started := by
  obtain ⟨launches, grown, goes⟩ : Answered spec call _ _ _ :=
    answer_answered answers spec fs call { Course.begin box with now }
  -- what the record has more than before is what was launched
  have launched : (turn answers spec fs box now call).1.launches = launches :=
    (congrArg (List.drop box.tool.length) grown).trans List.drop_left
  refine ⟨rfl, launched ▸ grown, ?_⟩
  subst launched
  exact goes

/-! ## Many calls -/

/-- Makes calls at their instants, one after the other. Gives how each of them went, and the
container that is left. -/
def turns (answers : Tool.Answers) (spec : Spec) (fs : FileSystem) :
    Container (List Launch) → List (Nat × Call) → List Turn × Container (List Launch)
  | box, [] => ([], box)
  | box, (now, call) :: rest =>
    let (first, next) := turn answers spec fs box now call
    let (others, last) := turns answers spec fs next rest
    (first :: others, last)

theorem turns_concat (box : Container (List Launch)) (visits : List (Nat × Call)) (now : Nat)
    (call : Call) :
    turns answers spec fs box (visits ++ [(now, call)]) =
      let (past, last) := turns answers spec fs box visits
      let (next, left) := turn answers spec fs last now call
      (past ++ [next], left) := by
  induction visits generalizing box with
  | nil => rfl
  | cons visit visits ih => simp only [List.cons_append, turns, ih]

/-- A file system without files. -/
def nowhere : FileSystem where
  root := .dir .nil
  workingDir := []

end Container

end AgentTrial
