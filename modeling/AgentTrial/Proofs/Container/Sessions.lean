import AgentTrial.Proofs.Container.Running
import AgentTrial.Proofs.Shell.Layers

/-!
# Sessions of a container

Which environment a command is executed in, by all the calls on the container before it.

* **Frame** — every call but one that creates a session leaves the sessions alone, and no call crashes
  (`answer_tame`); one that is taken adds its session before the others (`turn_sessions`).
* **Run** — so the environment of a session is the one it was last created with, and empty where it
  never was or where there is no session (`given_iff`).
* **Launches** — and a command that is taken is executed with exactly this environment
  (`turn_exact`).
-/

namespace AgentTrial.Container

/-! ## Frame -/

section Frame

variable {κ : Type} (tool : Tool κ) (spec : Spec) (fs : FileSystem)

theorem ask_tame (args : List String) (limit : Duration) :
    (ask tool args limit).Tame (·.sessions) := by
  refine Step.Tame.state.bind fun box => ?_
  dsimp only
  refine Step.Tame.bind (.update fun _ => rfl) fun _ => ?_
  split
  · exact .pure _
  · exact .fail _
  · exact (Step.Tame.sleep _).bind fun _ => .fail _

theorem requireStarted_tame {τ : Type} (view : Container κ → τ) :
    (requireStarted spec : Step (Container κ) SandboxError Unit).Tame view := by
  exact Step.Tame.state.bind fun box => .ite (.pure ()) (.fail _)

theorem start_tame : (start tool spec).Tame (·.sessions) := by
  refine (Step.Tame.log _ _).bind fun _ => ?_
  refine (ask_tame tool _ _).attempt.safely.bind fun removal => ?_
  -- what became of the removal is only logged
  obtain e | out := removal
  on_goal 1 => refine (Step.Tame.log _ _).bind fun _ => ?_
  all_goals
    refine Step.Tame.bind (.update fun _ => rfl) fun _ => ?_
    refine (ask_tame tool _ _).mapError.bind fun out => ?_
    exact .ite (.bind (.update fun _ => rfl) fun _ => .log _ _) (.fail _)

theorem stop_tame : (stop tool spec).Tame (·.sessions) := by
  refine Step.Tame.bind (.update fun _ => rfl) fun _ => ?_
  refine Step.Tame.state.bind fun box => .ite ?_ (.pure ())
  refine Step.Tame.bind (.update fun _ => rfl) fun _ => ?_
  refine (Step.Tame.log _ _).bind fun _ => ?_
  exact (ask_tame tool _ _).bind fun out => .ite (.pure ()) (.fail _)

theorem exec_tame (command : String) (session : Option String) (limit : Duration) :
    (exec tool spec command session limit).Tame (·.sessions) :=
  Step.Tame.state.bind fun _ => ask_tame tool _ _

theorem runCommand_tame (command : String) (session : Option String) (mode : RunMode)
    (limit : Duration) : (runCommand tool spec command session mode limit).Tame (·.sessions) := by
  refine (requireStarted_tame spec _).bind fun _ => ?_
  exact (Step.Tame.log _ _).bind fun _ => exec_tame tool spec _ _ _

theorem probe_tame (command session : String) :
    (probe tool spec command session).Tame (·.sessions) := by
  refine (requireStarted_tame spec _).bind fun _ => ?_
  exact (exec_tame tool spec _ _ _).bind fun _ => .pure _

theorem copyFile_tame (file : Upload) (remote : String) :
    (copyFile tool spec fs file remote).Tame (·.sessions) := by
  refine (requireStarted_tame spec _).bind fun _ => .ite ?_ (.fail _)
  refine (ask_tame tool _ _).bind fun out => .ite (.pure _) ?_
  exact (Step.Tame.log _ _).bind fun _ => .pure _

theorem copyDir_tame (dir remote : String) :
    (copyDir tool spec dir remote).Tame (·.sessions) := by
  refine (requireStarted_tame spec _).bind fun _ => ?_
  refine (runCommand_tame tool spec _ _ _ _).bind fun made => .ite ?_ (.pure _)
  exact (ask_tame tool _ _).bind fun _ => .pure _

theorem answer_tame {call : Call} (other : ∀ name env, call ≠ .session name env) :
    (answer tool spec fs call).Tame (·.sessions) := by
  cases call with
  | start => exact start_tame tool spec
  | stop => exact stop_tame tool spec
  | session name env => exact absurd rfl (other name env)
  | run command session mode limit => exact runCommand_tame tool spec command session mode limit
  | probe command session => exact probe_tame tool spec command session
  | uploadFile file remote => exact copyFile_tame tool spec fs file remote
  | uploadDir dir remote => exact copyDir_tame tool spec dir remote

theorem createSession_ends (name : String) (env : List (String × String))
    (c : Course (Container κ)) :
    (createSession spec name env).Ends c fun ending d =>
      if c.box.started then
        ending = .value () ∧ d.box.sessions = (name, env) :: c.box.sessions
      else ending = .error (.notStarted spec.id) ∧ d.box.sessions = c.box.sessions := by
  simp only [createSession, requireStarted, Step.ends_bind, Step.ends_state, Step.ends_ite,
    Step.ends_pure, Step.ends_fail, Step.ends_log, Step.ends_update]
  split <;> trivial

/-- A container never crashes. -/
theorem backend_isCalm (box : Container κ) (now : Nat) (asked : Call) (p : Crash) :
    ((backend tool spec fs).respond box now asked).1.ending ≠ .crash p := by
  by_cases session : ∃ name env, asked = .session name env
  · obtain ⟨name, env, rfl⟩ := session
    have ends := createSession_ends spec name env { Course.begin box with now }
    intro crashed
    rw [Step.Ends] at ends
    split at ends
    · cases crashed.symm.trans ends.1
    · cases crashed.symm.trans ends.1
  · have other : ∀ name env, asked ≠ .session name env := fun name env same =>
      session ⟨name, env, same⟩
    exact (answer_tame tool spec fs other { Course.begin box with now }).1 p

end Frame

/-! ## Run -/

namespace Turn

/-- Whether a call has created a session with an environment. -/
def Opens (name : String) (env : List (String × String)) (t : Turn) : Prop :=
  t.call = .session name env ∧ t.ending.isValue

end Turn

/-- What a session has as its environment by the calls on its container. -/
inductive Given (past : List Turn) : Option String → List (String × String) → Prop where
  | noSession : Given past none []
  /-- The session was never created, or never by a call that was taken. -/
  | never {name} (unopened : ∀ t ∈ past, ∀ env, ¬ t.Opens name env) : Given past (some name) []
  /-- The session was created, and not again since. -/
  | last {name env} (opened : Since (Turn.Opens name env) (fun t => ∀ env', ¬ t.Opens name env') past) :
      Given past (some name) env

section Given

variable {past : List Turn} {name : String} {env : List (String × String)}

theorem given_nil : Given [] (some name) env ↔ [] = env := by
  constructor
  · rintro (_ | _ | opened)
    · rfl
    · exact (Since.not_nil opened).elim
  · rintro rfl
    exact .never nofun

theorem given_concat {t : Turn} : Given (past ++ [t]) (some name) env ↔
    t.Opens name env ∨ (∀ env', ¬ t.Opens name env') ∧ Given past (some name) env := by
  constructor
  · rintro (_ | unopened | opened)
    · refine .inr ⟨unopened t (by simp), .never fun u mem => unopened u ?_⟩
      exact List.mem_append_left _ mem
    · rcases Since.concat_iff.mp opened with here | ⟨other, earlier⟩
      · exact .inl here
      · exact .inr ⟨other, .last earlier⟩
  · rintro (here | ⟨other, given⟩)
    · exact .last (Since.concat_iff.mpr (.inl here))
    · cases given with
      | never unopened =>
          refine .never fun u mem => ?_
          rcases List.mem_append.mp mem with old | new
          · exact unopened u old
          · exact List.mem_singleton.mp new ▸ other
      | last opened => exact .last (Since.concat_iff.mpr (.inr ⟨other, opened⟩))

/-- A session that was created with one environment only has this one. -/
theorem Given.of_opens {env' : List (String × String)} (given : Given past (some name) env')
    (opens : ∃ t ∈ past, t.Opens name env) (only : ∀ t ∈ past, ∀ env', t.Opens name env' → env' = env) :
    env' = env := by
  cases given with
  | never unopened =>
      obtain ⟨t, mem, opens⟩ := opens
      exact absurd opens (unopened t mem env)
  | last opened =>
      obtain ⟨before, t, after, rfl, opens, -⟩ := opened
      exact only t (by simp) env' opens

end Given

section Run

variable {answers : Tool.Answers} {spec : Spec} {fs : FileSystem}

/-- What a call does to the sessions. -/
theorem turn_sessions (answers : Tool.Answers) (spec : Spec) (fs : FileSystem)
    (box : Container (List Launch)) (now : Nat) (call : Call) :
    let r := turn answers spec fs box now call
    (∃ name env, call = .session name env ∧ r.1.ending.isValue ∧
        r.2.sessions = (name, env) :: box.sessions) ∨
      ((∀ name env, ¬ r.1.Opens name env) ∧ r.2.sessions = box.sessions) := by
  by_cases session : ∃ name env, call = .session name env
  · obtain ⟨name, env, rfl⟩ := session
    have ends := createSession_ends spec name env { Course.begin box with now }
    rw [Step.Ends] at ends
    split at ends
    · obtain ⟨ending, grown⟩ := ends
      exact .inl ⟨name, env, rfl, (congrArg Ending.isValue ending).trans rfl, grown⟩
    · obtain ⟨ending, same⟩ := ends
      refine .inr ⟨fun name' env' opens => ?_, same⟩
      cases (congrArg Ending.isValue ending).symm.trans opens.2
  · have other : ∀ name env, call ≠ .session name env := fun name env same =>
      session ⟨name, env, same⟩
    obtain ⟨-, same⟩ := answer_tame (Tool.answering answers) spec fs other
      { Course.begin box with now }
    exact .inr ⟨fun name env opens => other name env opens.1, same⟩

theorem environment_cons {box : Container (List Launch)} {name : String}
    {env : List (String × String)} {after : Container (List Launch)}
    (grown : after.sessions = (name, env) :: box.sessions) (session : Option String) :
    after.environment session =
      if session = some name then env else box.environment session := by
  cases session with
  | none => rfl
  | some other =>
      unfold environment
      rw [grown]
      by_cases same : name = other
      · simp [same]
      · simp [same, Ne.symm same]

/-- A call that does not create a session leaves its environment alone, whatever else it is. -/
theorem turn_environment {box : Container (List Launch)} {now : Nat} {call : Call}
    {session : Option String}
    (other : ∀ name env, session = some name →
      ¬ (turn answers spec fs box now call).1.Opens name env) :
    (turn answers spec fs box now call).2.environment session = box.environment session := by
  obtain ⟨name, env, rfl, taken, grown⟩ | ⟨-, same⟩ := turn_sessions answers spec fs box now call
  · rw [environment_cons grown, if_neg]
    exact fun same => other name env same ⟨rfl, taken⟩
  · unfold environment
    rw [same]

theorem turn_opens {box : Container (List Launch)} {now : Nat} {call : Call} {name : String}
    {env : List (String × String)} (opens : (turn answers spec fs box now call).1.Opens name env) :
    (turn answers spec fs box now call).2.environment (some name) = env := by
  obtain ⟨name', env', rfl, -, grown⟩ | ⟨unopened, -⟩ := turn_sessions answers spec fs box now call
  · obtain ⟨rfl, rfl⟩ := Call.session.inj opens.1
    rw [environment_cons grown, if_pos rfl]
  · exact absurd opens (unopened name env)

/-- **Run.** After any calls on a container that was new, however the tool answered, the environment
of a session is the one that it was last given. -/
theorem given_iff (answers : Tool.Answers) (spec : Spec) (fs : FileSystem)
    (visits : List (Nat × Call)) (session : Option String) (env : List (String × String)) :
    let r := turns answers spec fs new visits
    Given r.1 session env ↔ r.2.environment session = env := by
  cases session with
  | none => exact ⟨fun | .noSession => rfl, fun same => same ▸ .noSession⟩
  | some name =>
      induction visits using List.reverseRecOn with
      | nil => exact given_nil
      | append_singleton visits visit ih =>
          obtain ⟨now, call⟩ := visit
          rw [turns_concat]
          dsimp only at ih ⊢
          rw [given_concat, ih]
          let next := turn answers spec fs (turns answers spec fs new visits).2 now call
          -- the last call has created the session, or left it alone
          by_cases opens : ∃ env', next.1.Opens name env'
          · obtain ⟨env', opens⟩ := opens
            rw [turn_opens opens]
            constructor
            · rintro (again | ⟨unopened, -⟩)
              · exact (turn_opens opens).symm.trans (turn_opens again)
              · exact absurd opens (unopened env')
            · rintro rfl
              exact .inl opens
          · have other : ∀ name' env', some name = some name' → ¬ next.1.Opens name' env' := by
              rintro _ env' ⟨⟩ opened
              exact opens ⟨env', opened⟩
            rw [turn_environment other]
            constructor
            · rintro (opened | ⟨-, same⟩)
              · exact absurd ⟨env, opened⟩ opens
              · exact same
            · exact fun same => .inr ⟨not_exists.mp opens, same⟩

end Run

/-! ## Launches -/

/-- The session of a call that executes a command for its caller, how it is run, and the command. -/
def executes? : Call → Option (Option String × RunMode × String)
  | .run command session mode _ => some (session, mode, command)
  | .probe command session => some (some session, .normal, command)
  | _ => none

/-- The text that is executed for a command: the command itself, or the one word of a command that
the shell reads, which runs it apart from the session, with its errors where its output goes. -/
def Carried (command text : String) : RunMode → Prop
  | .normal => text = command
  | .nohup =>
    text = "nohup bash -c " ++ Shell.quote command ++ " < /dev/null 2>&1" ∧
      Shell.read? text = some
        [({ words := ["nohup", "bash", "-c", command].map .ofText
            stdin := .file (.ofText "/dev/null")
            stderr := .inherited 1 }, .last)]

/-- Whether a command was executed with an environment, as one last argument and with nothing
else. -/
def Turn.Executed (spec : Spec) (env : List (String × String)) (mode : RunMode) (command : String)
    (t : Turn) : Prop :=
  ∃ text, Carried command text mode ∧ t.launches.map (·.args) =
    ["exec" :: env.flatMap (fun (key, value) => ["-e", s!"{key}={value}"]) ++
      [spec.id, "bash", "-c", text]]

theorem isCommand_of_executes {call : Call} {executed : Option String × RunMode × String}
    (executes : executes? call = some executed) : call.isCommand := by
  cases call with
  | start => cases executes
  | stop => cases executes
  | session | run | probe | uploadFile | uploadDir => rfl

theorem Does.executed {spec : Spec} {environment : Option String → List (String × String)}
    {t : Turn} {session : Option String} {mode : RunMode} {command : String}
    (does : Does spec environment t.call (t.launches.map (·.args)))
    (executes : executes? t.call = some (session, mode, command)) :
    t.Executed spec (environment session) mode command := by
  obtain ⟨call, ending, launches⟩ := t
  dsimp only at does executes
  generalize all : launches.map (·.args) = arguments at does
  cases does with
  | run =>
      cases executes
      exact ⟨_, rfl, all⟩
  | runApart =>
      cases executes
      exact ⟨_, ⟨rfl, Shell.read_detached command⟩, all⟩
  | probe =>
      cases executes
      exact ⟨_, rfl, all⟩
  | session | noFile | file | noDir | dir => cases executes

/-- How a call goes by the sessions, from what has been called before. -/
structure Exact (spec : Spec) (past : List Turn) (box : Container (List Launch)) (next : Turn)
    (after : Container (List Launch)) : Prop where
  /-- The environment of a session is the one it was last given. -/
  given : ∀ session env, Given past session env ↔ box.environment session = env
  /-- A command that is taken is executed with the environment of its session and no other. -/
  executed : ∀ session mode command, executes? next.call = some (session, mode, command) →
    ¬ next.Refused spec → ∃ env, Given past session env ∧ next.Executed spec env mode command
  /-- A session that is created has its environment from then on, … -/
  opened : ∀ name env, next.Opens name env → after.environment (some name) = env
  /-- … and all others keep theirs, as all do with any other call. -/
  frame : ∀ session, (∀ name env, session = some name → ¬ next.Opens name env) →
    after.environment session = box.environment session

/-- **Launches.** After any calls on a container that was new, however the tool answered, the next
call goes by the sessions as they were created. -/
theorem turn_exact (answers : Tool.Answers) (spec : Spec) (fs : FileSystem)
    (visits : List (Nat × Call)) (now : Nat) (call : Call) :
    let past := turns answers spec fs new visits
    let next := turn answers spec fs past.2 now call
    Exact spec past.1 past.2 next.1 next.2 where
  given := given_iff answers spec fs visits
  executed session mode command executes taken := by
    have goes := (turn_goes answers spec fs (turns answers spec fs new visits).2 now call).2.2
    obtain ⟨-, -, does⟩ := goes.refused_iff (isCommand_of_executes executes)
    refine ⟨_, (given_iff answers spec fs visits session _).mpr rfl, ?_⟩
    exact (does taken).executed executes
  opened _ _ opens := turn_opens opens
  frame _ other := turn_environment other

/-- Whether a call executed its command with an environment. Nothing is launched for one that was
refused. -/
def Turn.Carries (spec : Spec) (env : List (String × String)) (t : Turn) : Prop :=
  ∃ session mode command, executes? t.call = some (session, mode, command) ∧
    (t.Refused spec ∧ t.launches = [] ∨ t.Executed spec env mode command)

theorem turn_carries {answers : Tool.Answers} {spec : Spec} {fs : FileSystem}
    {box : Container (List Launch)} {now : Nat} {call : Call} {session : Option String}
    {mode : RunMode} {command : String}
    (executes : executes? call = some (session, mode, command)) :
    (turn answers spec fs box now call).1.Carries spec (box.environment session) := by
  obtain ⟨-, idle, does⟩ :=
    (turn_goes answers spec fs box now call).2.2.refused_iff (isCommand_of_executes executes)
  refine ⟨session, mode, command, executes, ?_⟩
  by_cases refused : (turn answers spec fs box now call).1.Refused spec
  · exact .inl ⟨refused, idle refused⟩
  · exact .inr ((does refused).executed executes)

end AgentTrial.Container
